import SignalLab.Proofs.Backend.Variables
import SignalLab.Proofs.Program.Recovery

/-!
# Plotting — which series a plot statement sets, and of what it makes them

A plot statement looks for a signal in the store and, beside a signal, for a spectrum.  The series
it sets are described by their points alone: `Plot.IsSignal` says that two lists are the front parts
of times and samples, `Plot.IsSpectrum` that they are frequencies and moduli of the first half of
the bins.  `Plot.Sets` lists what a statement that comes to its end makes of a dataset.

The two series are set one after the other, and the moduli are worked out between.  A statement that
fails at one of them has set the signal already (`Plot.update_of_fault`), so that it is all or
nothing exactly where the signal was that one before (`Statement.plot_allOrNothing_iff`).
-/

namespace SignalLab

open Fallible

namespace Plot

/-! ## What a plot finds -/

/-- The signal that a plot finds in a store. -/
structure FindsSignal (store : Store) (t x : List Float) : Prop where
  times : store.realVector? "t" = some t
  samples : store.realVector? "x" = some x

/-- The spectrum that a plot finds in a store; it looks for one beside a signal only. -/
structure FindsSpectrum (store : Store) (spectrum : List ComplexDouble) : Prop where
  signal : ∃ t x, FindsSignal store t x
  bins : store.complexVector? "X" = some spectrum
  ne_nil : spectrum ≠ []

/-! ## What a plot sets -/

/-- The series of a signal: its times and samples from the first on, cut to the shorter list. -/
structure IsSignal (t x : List Float) (series : Series) : Prop where
  times : series.x <+: t.map .real
  samples : series.y <+: x.map .real
  length_times : series.x.length = min t.length x.length
  length_samples : series.y.length = min t.length x.length
  kind : series.kind = .line
  label : series.label = .text "Signal"

/-- The series of a spectrum of `N` bins: the points `(i * fs / N, |X[i]|)` of its first half,
rounded up. -/
structure IsSpectrum (fs : Float) (spectrum : List ComplexDouble) (series : Series) : Prop where
  length_frequencies : series.x.length = (spectrum.length + 1) / 2
  length_moduli : series.y.length = (spectrum.length + 1) / 2
  point : ∀ i < (spectrum.length + 1) / 2, ∃ z r, spectrum[i]? = some z ∧ z.modulus = .ok r ∧
    series.x[i]? = some (.real (Double.ofNat i * fs / Double.ofNat spectrum.length)) ∧
    series.y[i]? = some (.real r)
  kind : series.kind = .line
  label : series.label = .text "Frequency Spectrum"

/-- What a plot statement that comes to its end makes of a dataset. -/
inductive Sets (s : Settings) (store : Store) (before : Dataset) : Dataset → Prop
  | nothing (unseen : ∀ t x, ¬ FindsSignal store t x) : Sets s store before before
  | signal {t x : List Float} {time : Series} (found : FindsSignal store t x)
      (unseen : ∀ spectrum, ¬ FindsSpectrum store spectrum) (shows : IsSignal t x time) :
      Sets s store before (Keyed.assign timeName time before)
  | both {t x : List Float} {spectrum : List ComplexDouble} {time frequency : Series}
      (found : FindsSignal store t x) (seen : FindsSpectrum store spectrum)
      (shows : IsSignal t x time) (showsBins : IsSpectrum (sampleRate s store) spectrum frequency) :
      Sets s store before
        (Keyed.assign frequencyName frequency (Keyed.assign timeName time before))

variable {s : Settings} {store : Store} {dataset : Dataset} {t x : List Float}
  {spectrum : List ComplexDouble}

theorem isSignal_timeSeries (t x : List Float) : IsSignal t x (timeSeries t x) where
  times := (List.take_prefix _ t).map _
  samples := (List.take_prefix _ x).map _
  length_times := by
    show ((t.take (min t.length x.length)).map Payload.real).length = _
    rw [List.length_map, List.length_take]
    omega
  length_samples := by
    show ((x.take (min t.length x.length)).map Payload.real).length = _
    rw [List.length_map, List.length_take]
    omega
  kind := rfl
  label := rfl

/-- What is plotted of a spectrum are its lower bins. -/
theorem isSpectrum_of_frequencySeries {fs : Float} {series : Series}
    (h : frequencySeries fs spectrum = .ok series) : IsSpectrum fs spectrum series := by
  obtain ⟨moduli, hmoduli, h⟩ := bind_ok_iff.mp h
  cases h
  have hlength : moduli.length = (spectrum.length + 1) / 2 := by
    rw [length_of_mapM_ok hmoduli, List.length_take]
    omega
  refine
    { length_frequencies := ?_
      length_moduli := ?_
      point := ?_
      kind := rfl
      label := rfl }
  · show ((halfFrequencies fs spectrum.length).map Payload.real).length = _
    rw [List.length_map, halfFrequencies, List.length_map, List.length_range]
  · show (moduli.map Payload.real).length = _
    rw [List.length_map, hlength]
  · -- the first half of the bins is no longer than all of them
    intro i hi
    have hbin : i < spectrum.length := by omega
    have hfront : (spectrum.take ((spectrum.length + 1) / 2))[i]? = some spectrum[i] := by
      rw [List.getElem?_take_of_lt hi, List.getElem?_eq_getElem hbin]
    obtain ⟨r, hr, hmodulus⟩ := getElem?_of_mapM_ok hmoduli hfront
    refine ⟨spectrum[i], r, List.getElem?_eq_getElem hbin, hr, ?_, ?_⟩
    · show ((halfFrequencies fs spectrum.length).map Payload.real)[i]? = _
      rw [halfFrequencies, List.map_map, List.getElem?_map, List.getElem?_range hi]
      rfl
    · show (moduli.map Payload.real)[i]? = _
      rw [List.getElem?_map, hmodulus]
      rfl

/-! ## The plot statement -/

/-- Without a signal a plot does nothing. -/
theorem update_of_unseen (h : ∀ t x, ¬ FindsSignal store t x) :
    update s store dataset = (dataset, none) := by
  rw [update]
  split
  · rename_i t x ht hx
    exact absurd ⟨ht, hx⟩ (h t x)
  · rfl

/-- With a signal the series over time is set first, and stays where the other one fails. -/
theorem update_of_signal (h : FindsSignal store t x) :
    update s store dataset =
      match addFrequencies s store (Keyed.assign timeName (timeSeries t x) dataset) with
      | .ok dataset => (dataset, none)
      | .error fault => (Keyed.assign timeName (timeSeries t x) dataset, some fault) := by
  rw [update]
  split
  · rename_i t' x' ht hx
    obtain rfl : t = t' := Option.some.inj (h.times.symm.trans ht)
    obtain rfl : x = x' := Option.some.inj (h.samples.symm.trans hx)
    rfl
  · rename_i hnone
    exact absurd h.samples (hnone t x h.times)

/-- Without a spectrum it adds no frequencies. -/
theorem addFrequencies_of_unseen (hsignal : FindsSignal store t x)
    (h : ∀ spectrum, ¬ FindsSpectrum store spectrum) :
    addFrequencies s store dataset = .ok dataset := by
  rw [addFrequencies]
  split
  · rfl
  · rfl
  · rename_i spectrum hne hbins
    exact absurd ⟨⟨t, x, hsignal⟩, hbins, hne⟩ (h spectrum)

/-- A spectrum that is found is plotted. -/
theorem addFrequencies_of_spectrum (h : FindsSpectrum store spectrum) :
    addFrequencies s store dataset = (frequencySeries (sampleRate s store) spectrum).map
      fun series => Keyed.assign frequencyName series dataset := by
  obtain ⟨z, zs, hcons⟩ := List.exists_cons_of_ne_nil h.ne_nil
  rw [addFrequencies, h.bins, hcons]
  rfl

/-- A plot statement that comes to its end sets what it makes of the store, and nothing else. -/
theorem sets_update (h : (update s store dataset).2 = none) :
    Sets s store dataset (update s store dataset).1 := by
  by_cases hsignal : ∃ t x, FindsSignal store t x
  · obtain ⟨t, x, hfound⟩ := hsignal
    rw [update_of_signal hfound] at h ⊢
    by_cases hspectrum : ∃ spectrum, FindsSpectrum store spectrum
    · obtain ⟨spectrum, hseen⟩ := hspectrum
      rw [addFrequencies_of_spectrum hseen] at h ⊢
      cases hseries : frequencySeries (sampleRate s store) spectrum with
      | ok series =>
          exact .both hfound hseen (isSignal_timeSeries t x) (isSpectrum_of_frequencySeries hseries)
      | error fault =>
          rw [hseries] at h
          cases h
    · have hunseen := fun spectrum hseen => hspectrum ⟨spectrum, hseen⟩
      rw [addFrequencies_of_unseen hfound hunseen]
      exact .signal hfound hunseen (isSignal_timeSeries t x)
  · have hunseen := fun t x hfound => hsignal ⟨t, x, hfound⟩
    rw [update_of_unseen hunseen]
    exact .nothing hunseen

/-- A plot statement that fails has set the series over time, and not the one over frequency. -/
theorem update_of_fault {fault : Fault} (h : (update s store dataset).2 = some fault) :
    ∃ t x, FindsSignal store t x ∧
      (update s store dataset).1 = Keyed.assign timeName (timeSeries t x) dataset := by
  by_cases hsignal : ∃ t x, FindsSignal store t x
  · obtain ⟨t, x, hfound⟩ := hsignal
    refine ⟨t, x, hfound, ?_⟩
    rw [update_of_signal hfound] at h ⊢
    cases hadd : addFrequencies s store (Keyed.assign timeName (timeSeries t x) dataset) with
    | ok dataset' =>
        rw [hadd] at h
        cases h
    | error fault' => rfl
  · rw [update_of_unseen fun t x hfound => hsignal ⟨t, x, hfound⟩] at h
    cases h

end Plot

namespace Statement

open Plot

/-- Whether a statement that fails leaves the dataset as it was, and one that comes to its end sets
only what a plot makes of the store. -/
structure AllOrNothing (s : Settings) (st : State) (result : State × Option Failure) : Prop where
  failed : result.2 ≠ none → result.1.dataset = st.dataset
  ended : result.2 = none → Sets s st.store st.dataset result.1.dataset

variable {s : Settings} {draw : Nat → Float} {st : State} {text : Text}

/-- A plot changes the dataset and nothing else. -/
theorem run_plot (h : ofText text = .plot) : run s draw st text =
    ({ st with dataset := (update s st.store st.dataset).1 },
      (update s st.store st.dataset).2.map .arithmetic) := by
  rw [run, h]
  rfl

/-- A plot statement is all or nothing exactly if no modulus of the spectrum is beyond the largest
double, or the dataset shows the very signal already. -/
theorem plot_allOrNothing_iff (s : Settings) (draw : Nat → Float) (st : State)
    (h : ofText text = .plot) :
    AllOrNothing s st (run s draw st text) ↔
      (HugeModulus st.store → ∀ t x, FindsSignal st.store t x →
        Keyed.find? timeName st.dataset = some (timeSeries t x)) := by
  rw [run_plot h]
  constructor
  · -- the modulus fails behind the series over time: nothing has changed only if it was there
    intro hall hmodulus t x hfound
    have hfault : (update s st.store st.dataset).2 = some .modulusRange :=
      (update_fault_iff .modulusRange).mpr ⟨rfl, hmodulus⟩
    have hsame := hall.failed (by rw [hfault]; exact Option.some_ne_none _)
    obtain ⟨t', x', hfound', hset⟩ := update_of_fault hfault
    obtain rfl : t = t' := Option.some.inj (hfound.times.symm.trans hfound'.times)
    obtain rfl : x = x' := Option.some.inj (hfound.samples.symm.trans hfound'.samples)
    exact Keyed.assign_eq_self_iff.mp (hset.symm.trans hsame)
  · intro hshown
    refine ⟨fun hfailed => ?_, fun hended => ?_⟩
    · obtain ⟨failure, hfailure⟩ := Option.ne_none_iff_exists'.mp hfailed
      obtain ⟨fault, hfault, -⟩ := Option.map_eq_some_iff.mp hfailure
      obtain ⟨-, hmodulus⟩ := (update_fault_iff fault).mp hfault
      obtain ⟨t, x, hfound, hset⟩ := update_of_fault hfault
      exact hset.trans (Keyed.assign_eq_self_iff.mpr (hshown hmodulus t x hfound))
    · exact sets_update (Option.map_eq_none_iff.mp hended)

/-- Beside a spectrum of moderate size a signal is plotted anew. -/
theorem plot_allOrNothing_of_moderate_spectrum :
    let entries : Keyed Value := [("t", .realVector [0.0, 1.0]), ("x", .realVector [2.0, 5.0]),
      ("X", .complexVector [⟨3.0, 4.0⟩, ⟨-3.0, 0.0⟩])]
    let st : State :=
      { State.initial 0 with store := ⟨entries⟩, dataset := [(timeName, timeSeries [0.0] [7.0])] }
    ofText "plot(t, x)" = .plot ∧
      AllOrNothing Settings.standard st
        (run Settings.standard (fun _ => 0.0) st "plot(t, x)") := by
  intro entries st
  have hplot : ofText "plot(t, x)" = .plot := by rfl
  refine ⟨hplot, (plot_allOrNothing_iff Settings.standard (fun _ => 0.0) st hplot).mpr ?_⟩
  rintro ⟨-, -, spectrum, hspectrum, z, hz, -, -, hsize⟩
  cases hspectrum
  -- of two bins the first one is shown
  obtain rfl : z = ⟨3.0, 4.0⟩ := List.mem_singleton.mp hz
  have hfinite : (Double.hypot 3.0 4.0).isFinite = true := by decide +kernel
  cases hfinite.symm.trans hsize

/-- A modulus beyond the largest double: the plot fails and has set the series over time. -/
theorem plot_of_huge_modulus :
    let entries : Keyed Value := [("t", .realVector [0.0, 1.0]), ("x", .realVector [0.0, 1.0]),
      ("X", .complexVector [⟨1.5e308, 1.5e308⟩, ⟨0.0, 0.0⟩])]
    let st : State := { State.initial 0 with store := ⟨entries⟩ }
    let result := run Settings.standard (fun _ => 0.0) st "plot(t, x)"
    ofText "plot(t, x)" = .plot ∧ result.2 = some (.arithmetic .modulusRange) ∧
      st.dataset = [] ∧ Keyed.names result.1.dataset = [timeName] ∧
      ¬ AllOrNothing Settings.standard st result := by
  intro entries st result
  have hplot : ofText "plot(t, x)" = .plot := by rfl
  have hfailure : result.2 = some (.arithmetic .modulusRange) := by decide +kernel
  have hnames : Keyed.names result.1.dataset = [timeName] := by decide +kernel
  refine ⟨hplot, hfailure, rfl, hnames, fun hall => ?_⟩
  have hsame : result.1.dataset = [] :=
    hall.failed (by rw [hfailure]; exact Option.some_ne_none _)
  rw [hsame] at hnames
  cases hnames

end Statement

end SignalLab
