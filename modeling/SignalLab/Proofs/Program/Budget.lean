import Mathlib.Data.List.Infix
import SignalLab.Proofs.Fallible
import SignalLab.Proofs.Keyed
import SignalLab.Proofs.Program.Moment
import SignalLab.Proofs.Program.Range
import SignalLab.Proofs.Program.Transcript

/-!
# Budgets — the four limits hold at every point of a run

A run passes through more states than those between its statements: a print call appends its lines
one by one, a clean-up removes its variables one by one, and a plot sets one series before the
other.  `Statement.states` lists the states of one statement, and `Program.Passes` holds of all
states of a run, each with the number of statements dispatched up to then; the last one is among
them.

`State.Within` is the invariant: no vector and no series is longer than the limit on vectors, and
the transcript is not larger than the limit on the output.  Vectors come from ranges and random
numbers, which are checked against the limit, and from other vectors that are no shorter
(`Shape.value_within`).  A statement keeps the invariant (`Statement.exec_within`), and so does a
run (`Program.Reaches.within`), whose statements were each admitted by the clock and by the limit on
statements (`Program.Reaches.admits`).
-/

namespace SignalLab

open Fallible

/-! ## Vectors and series -/

/-- Whether a value is no vector longer than the limit. -/
def Value.Within (limit : Int) (v : Value) : Prop :=
  ∀ n, v.length? = some n → (n : Int) ≤ limit

/-- Whether neither coordinate of a series has more elements than the limit. -/
def Series.Within (limit : Int) (series : Series) : Prop :=
  (series.x.length : Int) ≤ limit ∧ (series.y.length : Int) ≤ limit

/-- Whether all vectors, all series and the transcript keep to their limits. -/
structure State.Within (s : Settings) (st : State) : Prop where
  store : ∀ entry ∈ st.store.entries, entry.2.Within s.maxVector
  dataset : ∀ entry ∈ st.dataset, entry.2.Within s.maxVector
  transcript : (Statement.transcriptSize st.transcript : Int) ≤ s.maxOutput

/-- The vectors of a store are within its limit. -/
theorem length_realVector_le {limit : Int} {store : Store} {name : Text} {xs : List Float}
    (hstore : ∀ entry ∈ store.entries, entry.2.Within limit)
    (h : store.realVector? name = some xs) : (xs.length : Int) ≤ limit := by
  obtain ⟨v, hv, hxs⟩ := Option.bind_eq_some_iff.mp h
  cases v with
  | scalar x => cases hxs
  | complexVector zs => cases hxs
  | realVector ys =>
      cases hxs
      exact hstore _ (Keyed.mem_of_find? hv) _ rfl

theorem length_complexVector_le {limit : Int} {store : Store} {name : Text}
    {zs : List ComplexDouble} (hstore : ∀ entry ∈ store.entries, entry.2.Within limit)
    (h : store.complexVector? name = some zs) : (zs.length : Int) ≤ limit := by
  obtain ⟨v, hv, hzs⟩ := Option.bind_eq_some_iff.mp h
  cases v with
  | scalar x => cases hzs
  | realVector xs => cases hzs
  | complexVector ys =>
      cases hzs
      exact hstore _ (Keyed.mem_of_find? hv) _ rfl

/-! ## Values -/

namespace Shape

variable {s : Settings} {store : Store}

/-- A scalar is within every limit. -/
theorem scalar_within (limit : Int) (x : Float) : (Value.scalar x).Within limit := by
  intro n h
  cases h

/-- What stands for a value that could not be found is a scalar. -/
theorem unresolved_within {reason : Unresolved} {v : Value} (h : unresolved s reason = .ok v) :
    v.Within s.maxVector := by
  rw [unresolved] at h
  split at h
  · cases h
    exact scalar_within _ _
  · cases h

/-- A range counts its samples as it goes. -/
theorem rangeValue_within (hlimit : 0 ≤ s.maxVector) {r : RangeText} {v : Value}
    (h : rangeValue s store r = .ok v) : v.Within s.maxVector := by
  rw [rangeValue_eq] at h
  obtain ⟨start, -, h⟩ := bind_ok_iff.mp h
  obtain ⟨step, -, h⟩ := bind_ok_iff.mp h
  obtain ⟨stop, -, h⟩ := bind_ok_iff.mp h
  obtain ⟨elements, helements, rfl⟩ := map_ok_iff.mp (mapError_ok_iff.mp h)
  intro n hn
  cases hn
  exact length_rangeElements_le hlimit helements

/-- A wave has as many samples as there are times. -/
theorem waveValue_within (hstore : ∀ entry ∈ store.entries, entry.2.Within s.maxVector)
    {isSine : Bool} {v : Value} (h : waveValue s store isSine = .ok v) :
    v.Within s.maxVector := by
  rw [waveValue] at h
  split at h
  · exact unresolved_within h
  · rename_i times htimes
    obtain ⟨samples, hsamples, rfl⟩ := map_ok_iff.mp (mapError_ok_iff.mp h)
    intro n hn
    cases hn
    rw [length_of_mapM_ok hsamples]
    exact length_realVector_le hstore htimes

/-- A transform has as many bins as its vector has samples. -/
theorem transformValue_within (hstore : ∀ entry ∈ store.entries, entry.2.Within s.maxVector)
    {argument : Option Text} {v : Value} (h : transformValue s store argument = .ok v) :
    v.Within s.maxVector := by
  unfold transformValue at h
  split at h
  · exact unresolved_within h
  · split at h
    · exact unresolved_within h
    · rename_i signal hsignal
      cases h
      intro n hn
      cases hn
      rw [Spectrum.dft, List.length_map, List.length_range]
      exact length_realVector_le hstore hsignal

/-- The random numbers are counted before they are drawn. -/
theorem randomCount_le {sizes : List Text} {n : Nat} (h : randomCount s store sizes = .ok n) :
    (n : Int) ≤ s.maxVector := by
  rw [randomCount] at h
  obtain ⟨count, -, h⟩ := bind_ok_iff.mp h
  split at h
  · cases h
  · cases h
    omega

/-- A right-hand side has no value longer than the limit. -/
theorem value_within (hlimit : 0 ≤ s.maxVector)
    (hstore : ∀ entry ∈ store.entries, entry.2.Within s.maxVector) {draw : Nat → Float}
    {used : Nat} {shape : Shape} {drawn : Drawn}
    (h : shape.value s draw used store = .ok drawn) : drawn.value.Within s.maxVector := by
  cases shape with
  | range r =>
      obtain ⟨v, hv, rfl⟩ := map_ok_iff.mp h
      exact rangeValue_within hlimit hv
  | wave isSine =>
      obtain ⟨v, hv, rfl⟩ := map_ok_iff.mp h
      exact waveValue_within hstore hv
  | transform argument =>
      obtain ⟨v, hv, rfl⟩ := map_ok_iff.mp h
      exact transformValue_within hstore hv
  | random sizes =>
      obtain ⟨count, hcount, h⟩ := bind_ok_iff.mp h
      cases h
      intro n hn
      cases hn
      rw [randomSamples, List.length_map, List.length_range]
      exact randomCount_le hcount
  | literal x =>
      cases h
      exact scalar_within _ _
  | arithmetic expr =>
      obtain ⟨v, hv, rfl⟩ := map_ok_iff.mp h
      obtain ⟨x, -, rfl⟩ := map_ok_iff.mp hv
      exact scalar_within _ _

end Shape

/-! ## Plots -/

namespace Plot

variable {s : Settings} {store : Store} {dataset : Dataset}

/-- A series in time has at most as many points as there are times. -/
theorem timeSeries_within {limit : Int} {t : List Float} (x : List Float)
    (h : (t.length : Int) ≤ limit) : (timeSeries t x).Within limit := by
  constructor
  · change ((List.map Payload.real _).length : Int) ≤ limit
    rw [List.length_map, List.length_take]
    omega
  · change ((List.map Payload.real _).length : Int) ≤ limit
    rw [List.length_map, List.length_take]
    omega

/-- Half of a spectrum, rounded up, is no longer than the spectrum. -/
theorem frequencySeries_within {limit : Int} {fs : Float} {spectrum : List ComplexDouble}
    {series : Series} (hlength : (spectrum.length : Int) ≤ limit)
    (h : frequencySeries fs spectrum = .ok series) : series.Within limit := by
  obtain ⟨magnitudes, hmagnitudes, h⟩ := bind_ok_iff.mp h
  cases h
  constructor
  · change ((List.map Payload.real _).length : Int) ≤ limit
    rw [List.length_map, halfFrequencies, List.length_map, List.length_range]
    omega
  · change ((List.map Payload.real _).length : Int) ≤ limit
    rw [List.length_map, length_of_mapM_ok hmagnitudes, List.length_take]
    omega

/-- A series within the limit can be stored. -/
theorem assign_within {limit : Int} {name : Text} {series : Series}
    (hseries : series.Within limit) (hdataset : ∀ entry ∈ dataset, entry.2.Within limit) :
    ∀ entry ∈ Keyed.assign name series dataset, entry.2.Within limit := by
  intro entry hentry
  rcases Keyed.mem_assign hentry with rfl | hold
  · exact hseries
  · exact hdataset entry hold

/-- A plot adds the bins of a vector of the store. -/
theorem addFrequencies_within (hstore : ∀ entry ∈ store.entries, entry.2.Within s.maxVector)
    (hdataset : ∀ entry ∈ dataset, entry.2.Within s.maxVector) {dataset' : Dataset}
    (h : addFrequencies s store dataset = .ok dataset') :
    ∀ entry ∈ dataset', entry.2.Within s.maxVector := by
  rw [addFrequencies] at h
  split at h
  · cases h
    exact hdataset
  · cases h
    exact hdataset
  · rename_i spectrum _ hspectrum
    obtain ⟨series, hseries, rfl⟩ := map_ok_iff.mp h
    have hlength := length_complexVector_le hstore hspectrum
    exact assign_within (frequencySeries_within hlength hseries) hdataset

/-- The dataset of a plot statement before the series over frequency. -/
def timed (store : Store) (dataset : Dataset) : Dataset :=
  match store.realVector? "t", store.realVector? "x" with
  | some t, some x => Keyed.assign timeName (timeSeries t x) dataset
  | _, _ => dataset

/-- A plot statement sets the series over time, and perhaps the one over frequency. -/
theorem update_fst (s : Settings) (store : Store) (dataset : Dataset) :
    (update s store dataset).1 = timed store dataset ∨
      addFrequencies s store (timed store dataset) = .ok (update s store dataset).1 := by
  rw [update, timed]
  cases store.realVector? "t" with
  | none => exact .inl rfl
  | some t =>
      cases store.realVector? "x" with
      | none => exact .inl rfl
      | some x =>
          dsimp only
          cases addFrequencies s store (Keyed.assign timeName (timeSeries t x) dataset) with
          | ok dataset' => exact .inr rfl
          | error fault => exact .inl rfl

/-- So it does with the samples. -/
theorem timed_within (hstore : ∀ entry ∈ store.entries, entry.2.Within s.maxVector)
    (hdataset : ∀ entry ∈ dataset, entry.2.Within s.maxVector) :
    ∀ entry ∈ timed store dataset, entry.2.Within s.maxVector := by
  rw [timed]
  split
  · rename_i t x ht hx
    exact assign_within (timeSeries_within x (length_realVector_le hstore ht)) hdataset
  · exact hdataset

end Plot

/-! ## Statements -/

namespace Statement

variable {s : Settings} {draw : Nat → Float} {st st' : State}

/-- The states a statement passes through, in order: the one it begins in, those after each line it
prints or each variable it removes, and the one it leaves. -/
def states (s : Settings) (draw : Nat → Float) (st : State) : Statement → List State
  | print call =>
    ((Print.lines? st.store call).getD []).inits.map fun front => (emitAll s st front).1
  | clear names =>
    names.inits.map fun front => { st with store := front.foldl Store.delete st.store }
  | plot =>
    [st, { st with dataset := Plot.timed st.store st.dataset }, (plot.exec s draw st).1]
  | t => [st, (t.exec s draw st).1]

/-- The last state of a statement is one of its states. -/
theorem exec_mem_states (s : Settings) (draw : Nat → Float) (st : State) (t : Statement) :
    (t.exec s draw st).1 ∈ t.states s draw st := by
  cases t with
  | print call =>
      rw [exec_print]
      exact List.mem_map.mpr ⟨_, (List.mem_inits _ _).mpr List.prefix_rfl, rfl⟩
  | clear names =>
      exact List.mem_map.mpr ⟨_, (List.mem_inits _ _).mpr List.prefix_rfl, rfl⟩
  | plot => exact .tail _ (.tail _ (.head _))
  | assign name expr => exact .tail _ (.head _)
  | clearAll => exact .tail _ (.head _)
  | clearConsole => exact .tail _ (.head _)
  | close => exact .tail _ (.head _)
  | echo text => exact .tail _ (.head _)
  | blank => exact .tail _ (.head _)

/-- The states a statement passes through: its first, its last, and between these the ones of a print
call, of a clean-up and of a plot. -/
theorem cases_of_mem_states {t : Statement} (h : st' ∈ t.states s draw st) :
    st' = st ∨ st' = (t.exec s draw st).1 ∨ (∃ front, st' = (emitAll s st front).1) ∨
      (∃ front : List Text, st' = { st with store := front.foldl Store.delete st.store }) ∨
      t = .plot ∧ st' = { st with dataset := Plot.timed st.store st.dataset } := by
  -- most statements change the state once, at their end
  have hpair : st' ∈ [st, (t.exec s draw st).1] → st' = st ∨ st' = (t.exec s draw st).1 := by
    intro hmem
    rwa [List.mem_cons, List.mem_singleton] at hmem
  cases t with
  | print call =>
      obtain ⟨front, -, rfl⟩ := List.mem_map.mp h
      exact .inr (.inr (.inl ⟨front, rfl⟩))
  | clear names =>
      obtain ⟨front, -, rfl⟩ := List.mem_map.mp h
      exact .inr (.inr (.inr (.inl ⟨front, rfl⟩)))
  | plot =>
      rcases List.mem_cons.mp h with hfirst | h
      · exact .inl hfirst
      rcases List.mem_cons.mp h with htimed | h
      · exact .inr (.inr (.inr (.inr ⟨rfl, htimed⟩)))
      · exact .inr (.inl (List.mem_singleton.mp h))
  | assign name expr => exact (hpair h).imp_right .inl
  | clearAll => exact (hpair h).imp_right .inl
  | clearConsole => exact (hpair h).imp_right .inl
  | close => exact (hpair h).imp_right .inl
  | echo text => exact (hpair h).imp_right .inl
  | blank => exact (hpair h).imp_right .inl

/-- Lines are added as long as they fit. -/
theorem emitAll_within (hst : st.Within s) (lines : List Text) :
    (emitAll s st lines).1.Within s := by
  have hsize := size_emitAll_le hst.transcript lines
  obtain ⟨front, -, h⟩ := emitAll_eq_withLines s st lines
  rw [h] at hsize ⊢
  exact ⟨hst.store, hst.dataset, hsize⟩

/-- A removal leaves nothing larger. -/
theorem delete_within (hst : st.Within s) (names : List Text) :
    { st with store := names.foldl Store.delete st.store }.Within s := by
  refine ⟨?_, hst.dataset, hst.transcript⟩
  have hstore := hst.store
  generalize st.store = store at hstore
  induction names generalizing store with
  | nil => exact hstore
  | cons name names ih =>
      exact ih _ fun entry hentry => hstore entry (Keyed.mem_of_mem_remove hentry)

/-- A statement keeps to the limits, whether it succeeds or not. -/
theorem exec_within (hlimit : 0 ≤ s.maxVector) (hst : st.Within s) (draw : Nat → Float)
    (t : Statement) : (t.exec s draw st).1.Within s := by
  cases t with
  | assign name expr =>
      rw [exec, assignTo]
      split
      · rename_i drawn hdrawn
        refine ⟨?_, hst.dataset, hst.transcript⟩
        intro entry hentry
        rcases Keyed.mem_assign hentry with rfl | hold
        · exact Shape.value_within hlimit hst.store hdrawn
        · exact hst.store entry hold
      · exact hst
  | print call =>
      rw [exec_print]
      exact emitAll_within hst _
  | plot =>
      -- the time series is updated even if the spectrum cannot be
      have htimed := Plot.timed_within hst.store hst.dataset
      refine ⟨hst.store, ?_, hst.transcript⟩
      change ∀ entry ∈ (Plot.update s st.store st.dataset).1, entry.2.Within s.maxVector
      rcases Plot.update_fst s st.store st.dataset with heq | hadd
      · rw [heq]
        exact htimed
      · exact Plot.addFrequencies_within hst.store htimed hadd
  | clearAll => exact ⟨List.forall_mem_nil _, hst.dataset, hst.transcript⟩
  | clear names => exact delete_within hst names
  | clearConsole => exact emitAll_within hst _
  | close => exact hst
  | echo text => exact emitAll_within hst _
  | blank => exact hst

/-- All states a statement passes through keep to the limits. -/
theorem states_within (hlimit : 0 ≤ s.maxVector) (hst : st.Within s) {t : Statement}
    (h : st' ∈ t.states s draw st) : st'.Within s := by
  rcases cases_of_mem_states h with rfl | rfl | ⟨front, rfl⟩ | ⟨front, rfl⟩ | ⟨rfl, rfl⟩
  · exact hst
  · exact exec_within hlimit hst draw t
  · exact emitAll_within hst front
  · exact delete_within hst front
  · exact ⟨hst.store, Plot.timed_within hst.store hst.dataset, hst.transcript⟩

end Statement

/-! ## Runs -/

namespace Program

variable {s : Settings} {clock draw : Nat → Float}

/-- The states a run passes through, each with the number of statements dispatched up to then. -/
inductive Passes (s : Settings) (clock draw : Nat → Float) (draws : Nat) (code : Text) :
    Nat → State → Prop
  | between {m : Moment} (reached : Reaches s clock draw (.start draws code) m) :
      Passes s clock draw draws code m.steps m.state
  | within {m : Moment} {line : Nat} {text : Text} {st : State}
      (reached : Reaches s clock draw (.start draws code) m)
      (dispatches : Dispatches s clock m line text)
      (inside : st ∈ (Statement.ofText text).states s draw m.state) :
      Passes s clock draw draws code (m.steps + 1) st

/-- A run passes through the state it comes to. -/
theorem exists_passes_execute (s : Settings) (clock draw : Nat → Float) (draws : Nat)
    (code : Text) :
    ∃ dispatched,
      Passes s clock draw draws code dispatched (execute s clock draw draws code).state := by
  obtain ⟨m, hreach, hends⟩ := exists_ends s clock draw (.start draws code)
  change Ends s clock draw m (execute s clock draw draws code) at hends
  generalize execute s clock draw draws code = p at hends
  cases hends with
  | done => exact ⟨_, .between hreach⟩
  | overdue late => exact ⟨_, .between hreach⟩
  | exhausted many => exact ⟨_, .between hreach⟩
  | @failed steps st st' line text rest failure hadm hrun =>
      have hlast := Statement.exec_mem_states s draw st (Statement.ofText text)
      rw [← Statement.run, hrun] at hlast
      exact ⟨_, .within hreach ⟨rfl, hadm⟩ hlast⟩

/-- Hence every moment of a run is within the limits. -/
theorem Reaches.within (hlimit : 0 ≤ s.maxVector) {m m' : Moment}
    (h : Reaches s clock draw m m') (hm : m.state.Within s) : m'.state.Within s := by
  induction h with
  | refl => exact hm
  | @step steps st st' line text rest _ _ hrun ih =>
      have hexec := Statement.exec_within hlimit ih draw (Statement.ofText text)
      rw [← Statement.run, hrun] at hexec
      exact hexec

/-- The clock and the limit on statements admitted every statement dispatched so far. -/
theorem Reaches.admits {m m' : Moment} (h : Reaches s clock draw m m') {i : Nat}
    (hm : m.steps ≤ i) (hi : i < m'.steps) : Admits s clock i := by
  induction h with
  | refl => omega
  | @step steps st st' line text rest _ hadm _ ih =>
      by_cases hlt : i < steps
      · exact ih hlt
      · have heq : i = steps := by
          change i < steps + 1 at hi
          omega
        rw [heq]
        exact hadm

/-- The state of a run is within the limits, and its statements so far were admitted. -/
theorem Passes.within_and_admits (houtput : 0 ≤ s.maxOutput) (hvector : 0 ≤ s.maxVector)
    {draws : Nat} {code : Text} {dispatched : Nat} {st : State}
    (h : Passes s clock draw draws code dispatched st) :
    st.Within s ∧ ∀ i < dispatched, Admits s clock i := by
  have hstart : (State.initial draws).Within s :=
    ⟨List.forall_mem_nil _, List.forall_mem_nil _, houtput⟩
  cases h with
  | between hreach =>
      exact ⟨hreach.within hvector hstart, fun i hi => hreach.admits (Nat.zero_le i) hi⟩
  | @within m line text st hreach hdisp hinside =>
      refine ⟨Statement.states_within hvector (hreach.within hvector hstart) hinside, ?_⟩
      intro i hi
      by_cases hlt : i < m.steps
      · exact hreach.admits (Nat.zero_le i) hlt
      · have heq : i = m.steps := by omega
        rw [heq]
        exact hdisp.admitted

/-- The four budgets: at every point of a run, vectors, series and transcript keep to their limits,
no more statements were dispatched than the limit admits, and before none of them did the clock show
more than the limit past the start. -/
theorem passes_within_budgets (s : Settings) (hsteps : 0 ≤ s.maxSteps)
    (houtput : 0 ≤ s.maxOutput) (hvector : 0 ≤ s.maxVector) (clock draw : Nat → Float)
    (draws : Nat) (code : Text) :
    (∃ dispatched,
      Passes s clock draw draws code dispatched (execute s clock draw draws code).state) ∧
    ∀ dispatched st, Passes s clock draw draws code dispatched st →
      st.Within s ∧ (dispatched : Int) ≤ s.maxSteps ∧
        ∀ i, 0 < i → i ≤ dispatched → ¬ s.maxTime < clock i - clock 0 := by
  refine ⟨exists_passes_execute s clock draw draws code, ?_⟩
  intro dispatched st hpasses
  obtain ⟨hwithin, hadmits⟩ := hpasses.within_and_admits houtput hvector
  refine ⟨hwithin, ?_, ?_⟩
  · cases dispatched with
    | zero => exact hsteps
    | succ n =>
        have hmany := (hadmits n (Nat.lt_succ_self n)).2
        omega
  · intro i hpos hi
    obtain ⟨k, rfl⟩ : ∃ k, i = k + 1 := ⟨i - 1, by omega⟩
    exact (hadmits k hi).1

/-- Two statements, five characters and three elements are just enough. -/
theorem passes_within_budgets_of_range :
    let s : Settings :=
      { Settings.standard with maxSteps := 2, maxOutput := 5, maxVector := 3 }
    let code : Text := "t = 0:1:2\nhello"
    ∃ dispatched st, Passes s (fun _ => 0.0) (fun _ => 0.0) 0 code dispatched st ∧
      st.transcript = ["hello".toList] ∧ (st.store.realVector? "t").map List.length = some 3 ∧
      st.Within s ∧ (dispatched : Int) ≤ 2 := by
  intro s code
  obtain ⟨⟨dispatched, hpasses⟩, hall⟩ := passes_within_budgets s (by decide) (by decide)
    (by decide) (fun _ => 0.0) (fun _ => 0.0) 0 code
  obtain ⟨hwithin, hmany, -⟩ := hall _ _ hpasses
  exact ⟨dispatched, _, hpasses, by decide +kernel, by decide +kernel, hwithin, hmany⟩

end Program

end SignalLab
