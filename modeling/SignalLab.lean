import SignalLab.Main
import SignalLab.Proofs.Program.Budget
import SignalLab.Proofs.Program.Concatenation
import SignalLab.Proofs.Program.Lockstep
import SignalLab.Proofs.Program.Recovery
import SignalLab.Server.Handlers
import SignalLab.Spectrum.Harmonics
import SignalLab.Proofs.Simulation.Neutralization
import SignalLab.Proofs.Simulation.Echoes
import SignalLab.Proofs.Expression.Whitelist
import SignalLab.Proofs.Program.Printing
import SignalLab.Proofs.Program.ReadBack
import SignalLab.Proofs.Program.Dependence
import SignalLab.Proofs.Program.Session
import SignalLab.Proofs.Outcome.RoundTrip
import SignalLab.Proofs.Backend.Variables
import SignalLab.Proofs.Program.Frame
import SignalLab.Proofs.Server.Spectra
import SignalLab.Proofs.Server.Answers
import SignalLab.Proofs.CommandLine.Plots
import SignalLab.Proofs.Simulation.Simultaneous
import SignalLab.Proofs.Program.Layout
import SignalLab.Proofs.Simulation.LineByLine
import SignalLab.Proofs.Text.Words
import SignalLab.Proofs.Program.Clearing
import SignalLab.Proofs.Print.Arguments
import SignalLab.Proofs.Print.Calls
import SignalLab.Proofs.Expression.Numerals
import SignalLab.Proofs.Print.Elements
import SignalLab.Proofs.Program.Figures
import SignalLab.Proofs.Program.Strictness
import SignalLab.Proofs.Backend.Degradation
import SignalLab.Proofs.Server.Maxima
import SignalLab.Proofs.Lab.Markers
import SignalLab.Proofs.Spectrum.Pairing
import SignalLab.Proofs.Spectrum.Halves
import SignalLab.Proofs.Spectrum.Unwrapping
import SignalLab.Proofs.Spectrum.Reconstruction
import SignalLab.Proofs.Spectrum.Coefficients
import SignalLab.Proofs.Simulation.SampleRate
import SignalLab.Proofs.Expression.Modulus
import SignalLab.Proofs.Expression.RoundingFunctions
import SignalLab.Proofs.Program.BareLiterals
import SignalLab.Proofs.Program.Cuts
import SignalLab.Proofs.Program.History
import SignalLab.Proofs.Text.Parts
