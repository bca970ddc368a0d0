import SignalLab.Backend.Dump
import SignalLab.Program.Execution
import SignalLab.Proofs.Fallible
import SignalLab.Proofs.Keyed

/-!
# Variables — plots of a store and plots of its dump

A process that is launched elsewhere leaves its variables behind as a dump, and the series are made
of the dump.  `Dump.entriesOf` is the dump of a store: the vectors `t` and `x` and the moduli of `X` as
lists, and `fs` as a number or a list.  A list may be written in a row or in a column (`Arrangement`);
its elements are the same.

The plot statement and the dump go different ways to the same dataset, `Plot.seriesOf`.

  * `Plot.update_eq` — the statement works out the moduli of the half of the spectrum that it shows.
  * `Dump.datasetOfEntries_eq` — the dump has the moduli of all of it, and half of them are shown.

Both cut the signal to the shorter vector, both leave out the frequencies of an empty spectrum, and
both fall back to the usual sample rate where `fs` is no scalar.
-/

namespace SignalLab

open Fallible

namespace Dump

/-! ## The dump of a store -/

/-- How a list of numbers is written: side by side, or each in a row of its own. -/
inductive Arrangement where
  | row
  | column
  deriving DecidableEq, Repr

/-- A list of numbers in an arrangement. -/
def Arrangement.write : Arrangement → List Float → Payload
  | .row, xs => .list (xs.map .real)
  | .column, xs => .list (xs.map fun x => .list [.real x])

/-- A variable in a dump: a number, or a list.  How a complex element is written is up to the
process. -/
def written (element : ComplexDouble → Payload) (a : Arrangement) : Value → Payload
  | .scalar x => .real x
  | .realVector xs => a.write xs
  | .complexVector zs => .list (zs.map element)

/-- The moduli of a value, which is a vector of one if it is a scalar. -/
def moduli : Value → Except Fault (List Float)
  | .scalar x => .ok [x.abs]
  | .realVector xs => .ok (xs.map Float.abs)
  | .complexVector zs => zs.mapM ComplexDouble.modulus

/-- The moduli of the spectrum, if there is one. -/
def spectrumModuli (store : Store) : Except Fault (Option (List Float)) :=
  match store.get? "X" with
  | none => .ok none
  | some v => (moduli v).map some

/-- The four entries that a dump may have, with `t`, `x` and the moduli in the given arrangements. -/
def possibleEntries (element : ComplexDouble → Payload) (time signal spectrum : Arrangement)
    (store : Store) (moduli? : Option (List Float)) : Keyed (Option Payload) :=
  [("t", (store.get? "t").map (written element time)),
    ("x", (store.get? "x").map (written element signal)),
    ("fs", (store.get? "fs").map (written element .row)),
    ("X_mag", moduli?.map spectrum.write)]

/-- The entries of the dump of a store: those of the variables that are bound. -/
def entriesOf (element : ComplexDouble → Payload) (time signal spectrum : Arrangement)
    (store : Store) : Except Fault (Keyed Payload) :=
  (spectrumModuli store).map fun moduli? =>
    Keyed.collect id (possibleEntries element time signal spectrum store moduli?)

end Dump

/-! ## The plot statement -/

namespace Plot

variable {s : Settings} {store : Store} {spectrum : List ComplexDouble} {moduli : List Float}

/-- The series over frequency of the moduli of a whole spectrum. -/
def seriesOfModuli (fs : Float) (moduli : List Float) : Series :=
  .line (halfFrequencies fs moduli.length) (moduli.take ((moduli.length + 1) / 2))
    "Frequency Spectrum"

/-- The series of a signal and of the moduli of its spectrum. -/
def seriesOf (t x : List Float) (fs : Float) (moduli : List Float) : Dataset :=
  (timeName, timeSeries t x) ::
    if moduli.isEmpty then [] else [(frequencyName, seriesOfModuli fs moduli)]

/-- The sample rate that a plot statement works with. -/
def sampleRate (s : Settings) (store : Store) : Float :=
  (store.scalar? "fs").getD s.defaultSampleRate

/-- The moduli of half a spectrum are half of its moduli. -/
theorem frequencySeries_eq (fs : Float) (h : spectrum.mapM ComplexDouble.modulus = .ok moduli) :
    frequencySeries fs spectrum = .ok (seriesOfModuli fs moduli) := by
  have hlength : moduli.length = spectrum.length := length_of_mapM_ok h
  rw [frequencySeries, mapM_take h, seriesOfModuli, hlength]
  rfl

/-- The moduli that a plot may show: those of the spectrum, or none if it is not bound. -/
def HasModuli (store : Store) (moduli : List Float) : Prop :=
  (store.get? "X" = none ∧ moduli = []) ∨
    ∃ spectrum, store.get? "X" = some (.complexVector spectrum) ∧
      spectrum.mapM ComplexDouble.modulus = .ok moduli

theorem addFrequencies_eq (s : Settings) (h : HasModuli store moduli) (time : Series) :
    addFrequencies s store [(timeName, time)] =
      .ok ((timeName, time) ::
        if moduli.isEmpty then [] else
          [(frequencyName, seriesOfModuli (sampleRate s store) moduli)]) := by
  rcases h with ⟨hnone, rfl⟩ | ⟨spectrum, hspectrum, hmoduli⟩
  · rw [addFrequencies, Store.complexVector?, hnone]
    rfl
  · rw [addFrequencies, Store.complexVector?, hspectrum]
    cases spectrum with
    | nil =>
        cases hmoduli
        rfl
    | cons z zs =>
        -- a spectrum that is not empty has moduli, so that both sides show the frequencies
        have hlength : moduli.length = zs.length + 1 := length_of_mapM_ok hmoduli
        cases moduli with
        | nil => cases hlength
        | cons r rs =>
            show (frequencySeries (sampleRate s store) (z :: zs)).map _ = _
            rw [frequencySeries_eq _ hmoduli]
            rfl

/-- A plot of real vectors over an empty dataset makes the series of the signal and its spectrum. -/
theorem update_eq (s : Settings) {t x : List Float} (ht : store.realVector? "t" = some t)
    (hx : store.realVector? "x" = some x) (h : HasModuli store moduli) :
    update s store [] = (seriesOf t x (sampleRate s store) moduli, none) := by
  have htime : Keyed.assign timeName (timeSeries t x) [] = [(timeName, timeSeries t x)] := rfl
  rw [update, ht, hx]
  dsimp only
  rw [htime, addFrequencies_eq s h]
  rfl

end Plot

/-! ## The dump -/

namespace Dump

open Plot (seriesOf seriesOfModuli HasModuli)

/-- A list has the same elements in a row and in a column. -/
theorem elements_write (a : Arrangement) (xs : List Float) :
    elements (a.write xs) = xs.map .real := by
  cases a with
  | row =>
      show (xs.map Payload.real).map rowHead = _
      rw [List.map_map]
      rfl
  | column =>
      show (xs.map fun x => Payload.list [.real x]).map rowHead = _
      rw [List.map_map]
      rfl

/-- A signal in a dump is cut to the shorter vector as it is in a store. -/
theorem timeSeries_map (t x : List Float) :
    timeSeries (t.map .real) (x.map .real) = Plot.timeSeries t x := by
  rw [timeSeries, Plot.timeSeries, Series.line, List.length_map, List.length_map, List.map_take,
    List.map_take]

theorem frequencySeries_map (fs : Float) (moduli : List Float) :
    frequencySeries fs (moduli.map .real) = seriesOfModuli fs moduli := by
  rw [frequencySeries, seriesOfModuli, Series.line, List.length_map, List.map_take]

/-- The series of a dump, by the lists it has under the names that are looked at. -/
theorem datasetOfEntries_eq {entries : Keyed Payload} {t x moduli : List Float} {fs : Float}
    (ht : elementsAt entries "t" = t.map .real) (hx : elementsAt entries "x" = x.map .real)
    (hmoduli : elementsAt entries "X_mag" = moduli.map .real)
    (hfs : sampleRate ((Keyed.find? "fs" entries).getD .null) = .ok fs)
    (htime : t ≠ []) (hsignal : x ≠ []) :
    datasetOfEntries entries = .ok (some (seriesOf t x fs moduli)) := by
  rw [datasetOfEntries, ht, hx, hmoduli, hfs]
  cases t with
  | nil => exact absurd rfl htime
  | cons t₀ t =>
      cases x with
      | nil => exact absurd rfl hsignal
      | cons x₀ x =>
          have hseries := timeSeries_map (t₀ :: t) (x₀ :: x)
          cases moduli with
          | nil =>
              show Except.ok (some [(Plot.timeName,
                timeSeries ((t₀ :: t).map .real) ((x₀ :: x).map .real))]) = _
              rw [hseries]
              rfl
          | cons r rs =>
              show Except.ok (some [(Plot.timeName,
                  timeSeries ((t₀ :: t).map .real) ((x₀ :: x).map .real)),
                (Plot.frequencyName, frequencySeries fs ((r :: rs).map .real))]) = _
              rw [hseries, frequencySeries_map]
              rfl

section Entries

variable {element : ComplexDouble → Payload} {time signal spectrum : Arrangement} {store : Store}
  {entries : Keyed Payload} {moduli : List Float}

theorem nodup_names_possibleEntries (element : ComplexDouble → Payload)
    (time signal spectrum : Arrangement) (store : Store) (moduli? : Option (List Float)) :
    (Keyed.names (possibleEntries element time signal spectrum store moduli?)).Nodup := by
  show ["t".toList, "x".toList, "fs".toList, "X_mag".toList].Nodup
  decide

/-- The dump of a store that has moduli, by what is found in it under the four names. -/
theorem exists_entriesOf (element : ComplexDouble → Payload) (time signal spectrum : Arrangement)
    (h : HasModuli store moduli) :
    ∃ entries, entriesOf element time signal spectrum store = .ok entries ∧
      Keyed.find? "t" entries = (store.get? "t").map (written element time) ∧
      Keyed.find? "x" entries = (store.get? "x").map (written element signal) ∧
      Keyed.find? "fs" entries = (store.get? "fs").map (written element .row) ∧
      elementsAt entries "X_mag" = moduli.map .real := by
  have hmoduli : ∃ moduli?, spectrumModuli store = .ok moduli? ∧
      elements ((moduli?.map spectrum.write).getD .null) = moduli.map .real := by
    rw [spectrumModuli]
    rcases h with ⟨hnone, rfl⟩ | ⟨zs, hspectrum, hmoduli⟩
    · rw [hnone]
      exact ⟨none, rfl, rfl⟩
    · rw [hspectrum]
      exact ⟨some moduli, map_ok_iff.mpr ⟨moduli, hmoduli, rfl⟩, elements_write spectrum moduli⟩
  obtain ⟨moduli?, hok, helements⟩ := hmoduli
  refine ⟨_, map_ok_iff.mpr ⟨moduli?, hok, rfl⟩, ?_⟩
  -- the four names are different, so that each finds its own entry
  have hfind := Keyed.find?_collect id
    (nodup_names_possibleEntries element time signal spectrum store moduli?)
  refine ⟨hfind "t", hfind "x", hfind "fs", ?_⟩
  rw [elementsAt, hfind]
  exact helements

/-- The sample rate of a dump is the scalar `fs` of its store, and the usual one without it. -/
theorem sampleRate_written (element : ComplexDouble → Payload) (v : Option Value) :
    sampleRate ((v.map (written element .row)).getD .null) =
      .ok ((v.bind Value.scalar?).getD (Double.ofNat defaultSampleRate)) := by
  rcases v with _ | _ | _ | _ <;> rfl

theorem elementsAt_written {name : Text} {a : Arrangement} {xs : List Float}
    (hname : Keyed.find? name entries = (store.get? name).map (written element a))
    (h : store.realVector? name = some xs) : elementsAt entries name = xs.map .real := by
  rw [Store.realVector?, Option.bind_eq_some_iff] at h
  obtain ⟨v, hv, hxs⟩ := h
  cases v with
  | realVector ys =>
      cases hxs
      rw [elementsAt, hname, hv]
      exact elements_write a xs
  | scalar y => cases hxs
  | complexVector zs => cases hxs

end Entries

end Dump

/-- A plot statement over an empty dataset makes the same series of the variables as their dump does,
whether its lists are written in rows or in columns. -/
theorem plot_eq_dump (s : Settings) (hrate : s.defaultSampleRate = 1000.0) (draw : Nat → Float)
    (st : State) (hdataset : st.dataset = []) {t x : List Float}
    (ht : st.store.realVector? "t" = some t) (hx : st.store.realVector? "x" = some x)
    (htime : t ≠ []) (hsignal : x ≠ [])
    (hspectrum : st.store.get? "X" = none ∨
      ∃ zs, st.store.get? "X" = some (.complexVector zs) ∧
        ∀ z ∈ zs, ∃ r, z.modulus = .ok r) :
    ∃ dataset, Statement.exec s draw st .plot = ({ st with dataset }, none) ∧
      ∀ element time signal spectrum, ∃ entries,
        Dump.entriesOf element time signal spectrum st.store = .ok entries ∧
          Dump.dataset (.object entries) = .ok (some dataset) := by
  -- both ways begin with the moduli of the spectrum, if there is one
  obtain ⟨moduli, hmoduli⟩ : ∃ moduli, Plot.HasModuli st.store moduli := by
    rcases hspectrum with hnone | ⟨zs, hzs, hall⟩
    · exact ⟨[], .inl ⟨hnone, rfl⟩⟩
    · obtain ⟨moduli, hok⟩ := exists_mapM_ok hall
      exact ⟨moduli, .inr ⟨zs, hzs, hok⟩⟩
  refine ⟨Plot.seriesOf t x (Plot.sampleRate s st.store) moduli, ?_, ?_⟩
  · rw [Statement.exec, hdataset, Plot.update_eq s ht hx hmoduli]
    rfl
  · intro element time signal spectrum
    obtain ⟨entries, hentries, hfindT, hfindX, hfindRate, helements⟩ :=
      Dump.exists_entriesOf element time signal spectrum hmoduli
    refine ⟨entries, hentries, ?_⟩
    have hfs : Dump.sampleRate ((Keyed.find? "fs" entries).getD .null) =
        .ok (Plot.sampleRate s st.store) := by
      have hdefault : Double.ofNat defaultSampleRate = s.defaultSampleRate := by
        rw [hrate]
        decide +kernel
      rw [hfindRate, Dump.sampleRate_written, hdefault]
      rfl
    -- the time is in the dump, so that it is not empty
    have htruthy : (Payload.object entries).truthy = true := by
      cases entries with
      | nil =>
          have hbound : (st.store.get? "t").map (Dump.written element time) = none :=
            hfindT.symm
          rw [Store.realVector?, Option.map_eq_none_iff.mp hbound] at ht
          cases ht
      | cons entry rest => rfl
    rw [Dump.dataset, if_pos htruthy]
    exact Dump.datasetOfEntries_eq (Dump.elementsAt_written hfindT ht)
      (Dump.elementsAt_written hfindX hx) helements hfs htime hsignal

/-- Three times, two samples, a spectrum of three and a sample rate that is no scalar. -/
theorem plot_eq_dump_of_odd_spectrum :
    let s := Settings.standard
    let spectrum : List ComplexDouble := [⟨3.0, 4.0⟩, ⟨0.0, 1.0⟩, ⟨0.0, -1.0⟩]
    let store : Store := ⟨[("t", .realVector [0.0, 0.25, 0.5]), ("x", .realVector [1.0, 2.0]),
      ("fs", .realVector [8.0]), ("X", .complexVector spectrum)]⟩
    let st : State := { State.initial 0 with store }
    (s.defaultSampleRate = 1000.0 ∧ st.dataset = [] ∧
      st.store.realVector? "t" = some [0.0, 0.25, 0.5] ∧
      st.store.realVector? "x" = some [1.0, 2.0] ∧ ∀ z ∈ spectrum, ∃ r, z.modulus = .ok r) ∧
    ∃ dataset, Statement.exec s (fun _ => 0.0) st .plot = ({ st with dataset }, none) ∧
      Keyed.names dataset = ["time".toList, "frequency"] ∧
      ∀ element time signal spectrum, ∃ entries,
        Dump.entriesOf element time signal spectrum st.store = .ok entries ∧
          Dump.dataset (.object entries) = .ok (some dataset) := by
  intro s spectrum store st
  have hrate : s.defaultSampleRate = 1000.0 := by decide +kernel
  have ht : st.store.realVector? "t" = some [0.0, 0.25, 0.5] := by rfl
  have hx : st.store.realVector? "x" = some [1.0, 2.0] := by rfl
  have hX : st.store.get? "X" = some (.complexVector spectrum) := by rfl
  have hmoduli : ∀ z ∈ spectrum, ∃ r, z.modulus = .ok r := by
    have hok : ∀ z ∈ spectrum, z.modulus.isOk = true := by decide +kernel
    exact fun z hz => isOk_iff.mp (hok z hz)
  obtain ⟨dataset, hplot, hdump⟩ := plot_eq_dump s hrate (fun _ => 0.0) st rfl ht hx
    (by simp) (by simp) (.inr ⟨spectrum, hX, hmoduli⟩)
  have hnames : Keyed.names (Statement.exec s (fun _ => 0.0) st .plot).1.dataset =
      ["time".toList, "frequency"] := by
    decide +kernel
  rw [hplot] at hnames
  exact ⟨⟨hrate, rfl, ht, hx, hmoduli⟩, dataset, hplot, hnames, hdump⟩

end SignalLab
