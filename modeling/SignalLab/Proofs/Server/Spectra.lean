import SignalLab.Proofs.Spectrum.SingleSided
import SignalLab.Server.Handlers

/-!
# Requested spectra — what becomes of a posted signal

A request for a spectrum is rejected, or answered, or it comes to a fault.  Windows, padding, angles
and frequencies never fail, since an accepted signal is short (`Server.SignalRequest.Admits`); a bin
of the padded signal may still be too large.

  * `Server.accept_ok_iff` — which requests are not rejected, and the window that they have.
  * `Server.signalSpectrum_fault_iff` — which requests are rejected, which come to a fault and which
    have a spectrum.
-/

namespace SignalLab

open Fallible

namespace Server

/-- A request that is not rejected, with the window of its name. -/
structure SignalRequest.Admits (r : SignalRequest) (w : Spectrum.Window) : Prop where
  nonempty : r.signal ≠ []
  short : r.signal.length ≤ maxSignalLength
  window : Spectrum.Window.ofName? r.window = some w
  sampleRate : ¬r.fs ≤ 0.0

/-- A request is accepted exactly if it is admitted, and with the window that it names. -/
theorem accept_ok_iff (r : SignalRequest) (w : Spectrum.Window) :
    accept r = .ok w ↔ r.Admits w := by
  rw [accept]
  constructor
  · intro h
    split at h
    · cases h
    rename_i hne
    split at h
    · cases h
    rename_i hshort
    split at h
    · cases h
    rename_i w' hw
    split at h
    · cases h
    rename_i hfs
    cases h
    exact ⟨fun hnil => hne (List.isEmpty_iff.mpr hnil), Nat.le_of_not_lt hshort, hw, hfs⟩
  · rintro ⟨hne, hshort, hw, hfs⟩
    rw [if_neg (fun hnil => hne (List.isEmpty_iff.mp hnil)), if_neg (Nat.not_lt.mpr hshort), hw]
    exact if_neg hfs

/-- A request is refused exactly if no window admits it. -/
theorem accept_error_iff (r : SignalRequest) :
    (∃ why, accept r = .error why) ↔ ¬∃ w, r.Admits w := by
  constructor
  · rintro ⟨why, hwhy⟩ ⟨w, hw⟩
    cases hwhy.symm.trans ((accept_ok_iff r w).mpr hw)
  · intro hnone
    cases h : accept r with
    | error why => exact ⟨why, rfl⟩
    | ok w => exact absurd ⟨w, (accept_ok_iff r w).mp h⟩ hnone

/-- The spectrum of the padded signal of a request, under a window. -/
def SignalRequest.spectrum (r : SignalRequest) (w : Spectrum.Window) : List ComplexDouble :=
  Spectrum.dft (Spectrum.padded r.signal (paddingWithin r.padding) w)

/-- The number of bins of the answer to a request. -/
def SignalRequest.bins (r : SignalRequest) : Nat :=
  Spectrum.paddedSize r.signal.length (paddingWithin r.padding) / 2 + 1

variable {r : SignalRequest} {w : Spectrum.Window}

/-- What is admitted is short enough for its bins to be told apart. -/
theorem SignalRequest.Admits.told_apart (h : r.Admits w) :
    r.signal.length ≤ Spectrum.maxToldApart :=
  Nat.le_trans h.short (by decide)

/-- Only what is not admitted is refused: the spectrum itself refuses nothing. -/
theorem signalSpectrum_error_iff (r : SignalRequest) :
    (∃ why, signalSpectrum r = .error why) ↔ ¬∃ w, r.Admits w := by
  rw [← accept_error_iff]
  refine exists_congr fun why => ?_
  rw [signalSpectrum, bind_error_iff]
  constructor
  · rintro (h | ⟨w, -, h⟩)
    · exact h
    · cases h
  · exact .inl

/-- The answer to an admitted request is the one-sided spectrum of its signal. -/
theorem signalSpectrum_ok_iff (r : SignalRequest) (answer : Except Fault Spectrum.SingleSided) :
    signalSpectrum r = .ok answer ↔ ∃ w, r.Admits w ∧
      Spectrum.singleSided r.signal r.fs r.normalize (paddingWithin r.padding) w = answer := by
  rw [signalSpectrum, bind_ok_iff]
  simp only [accept_ok_iff, Except.ok.injEq]

/-- A request is rejected exactly if its signal, window or sample rate cannot be used.  Any other
one has a spectrum with all its bins, unless a bin of the padded signal is huge; then a fault
escapes. -/
theorem signalSpectrum_fault_iff (r : SignalRequest) :
    ((∃ why, signalSpectrum r = .error why) ↔ ¬∃ w, r.Admits w) ∧
    (∀ e, signalSpectrum r = .ok (.error e) ↔
      e = .modulusRange ∧ ∃ w, r.Admits w ∧ Spectrum.HasHugeBin (r.spectrum w)) ∧
    ((∃ s, signalSpectrum r = .ok (.ok s) ∧ s.HasBins r.bins) ↔
      ∃ w, r.Admits w ∧ ¬Spectrum.HasHugeBin (r.spectrum w)) := by
  refine ⟨signalSpectrum_error_iff r, fun e => ?_, ?_⟩
  · rw [signalSpectrum_ok_iff]
    constructor
    · rintro ⟨w, hw, h⟩
      obtain ⟨rfl, hhuge⟩ := (Spectrum.singleSided_error_iff hw.told_apart _ _ _ _ e).mp h
      exact ⟨rfl, w, hw, hhuge⟩
    · rintro ⟨rfl, w, hw, hhuge⟩
      exact ⟨w, hw, (Spectrum.singleSided_error_iff hw.told_apart _ _ _ _ _).mpr ⟨rfl, hhuge⟩⟩
  · constructor
    · rintro ⟨s, h, -⟩
      obtain ⟨w, hw, hs⟩ := (signalSpectrum_ok_iff r _).mp h
      refine ⟨w, hw, fun hhuge => ?_⟩
      have herror := (Spectrum.singleSided_error_iff hw.told_apart r.fs r.normalize
        (paddingWithin r.padding) w .modulusRange).mpr ⟨rfl, hhuge⟩
      cases hs.symm.trans herror
    · rintro ⟨w, hw, hsmall⟩
      cases hs : Spectrum.singleSided r.signal r.fs r.normalize (paddingWithin r.padding) w with
      | error e =>
          exact absurd ((Spectrum.singleSided_error_iff hw.told_apart _ _ _ _ e).mp hs).2 hsmall
      | ok s =>
          exact ⟨s, (signalSpectrum_ok_iff r _).mpr ⟨w, hw, hs⟩,
            Spectrum.hasBins_of_singleSided hw.nonempty hw.told_apart hs⟩

end Server

end SignalLab
