import SignalLab.Proofs.Fallible
import SignalLab.Proofs.Number.DoubleOrder
import SignalLab.Proofs.Program.Frame
import SignalLab.Proofs.Program.Moment
import SignalLab.Proofs.Program.Range

/-!
# Lockstep — one program under stricter and looser settings

`s.Loosens s'` says that `s'` is at least as generous as `s`: each limit is at least as large, the
policy is the same or recovers, and all else agrees.  Two runs of a program under such settings go
in lockstep as long as the stricter one succeeds, because a limit only ever stops a computation and
never changes what was computed before it.

  * `Shape.value_loosens`, `Statement.exec_loosens` — what has a value, or succeeds, under `s` has
    the same value, or the same effect, under `s'`.
  * `Moment.finish_loosens`, `Moment.transcript_prefix_loosens` — a run that succeeds under `s` is
    the run under `s'`, and any run under `s` prints a front of what the one under `s'` prints.
  * `outcome_loosens` — the two together, for what the runs come to.
  * `run_larger_limits`, `run_recovering` — its two cases: larger limits, and a policy that recovers
    failed evaluations as zero in place of one that raises them.
-/

namespace SignalLab

open Fallible

/-- Settings that admit whatever others do, and fail nowhere else. -/
structure Settings.Loosens (s s' : Settings) : Prop where
  steps : s.maxSteps ≤ s'.maxSteps
  time : ∀ elapsed, s'.maxTime < elapsed → s.maxTime < elapsed
  output : s.maxOutput ≤ s'.maxOutput
  vector : s.maxVector ≤ s'.maxVector
  fallback : s'.fallback = s.fallback ∨ s'.fallback = .zero
  frequency : s'.defaultFrequency = s.defaultFrequency
  sampleRate : s'.defaultSampleRate = s.defaultSampleRate

/-! ## Values -/

/-- A value that is found is found under the recovering policy too. -/
theorem evaluate_loosens {policy policy' : FallbackPolicy} {env : Expression.Environment}
    {text : Text} {x : Float} (hpolicy : policy' = policy ∨ policy' = .zero)
    (h : evaluate policy env text = .ok x) : evaluate policy' env text = .ok x := by
  rcases hpolicy with rfl | rfl
  · exact h
  · unfold evaluate at h ⊢
    cases heval : evalText env text with
    | ok y =>
        rw [heval] at h
        exact h
    | error e =>
        rw [heval] at h
        cases policy with
        | zero => exact h
        | raise => cases h

namespace Shape

variable {s s' : Settings} {store : Store}

/-- So is a number. -/
theorem number_loosens (hs : s.Loosens s') {expr : Text} {x : Float}
    (h : number s store expr = .ok x) : number s' store expr = .ok x :=
  mapError_ok_iff.mpr (evaluate_loosens hs.fallback (mapError_ok_iff.mp h))

theorem unresolved_loosens (hs : s.Loosens s') {reason : Unresolved} {v : Value}
    (h : unresolved s reason = .ok v) : unresolved s' reason = .ok v := by
  rw [unresolved] at h ⊢
  rcases hs.fallback with hsame | hzero
  · rw [hsame]
    exact h
  · rw [hzero]
    cases hp : s.fallback with
    | zero =>
        rw [hp] at h
        exact h
    | raise =>
        rw [hp] at h
        cases h

/-- A range within a limit is within a larger one. -/
theorem rangeValue_loosens (hs : s.Loosens s') {r : RangeText} {v : Value}
    (h : rangeValue s store r = .ok v) : rangeValue s' store r = .ok v := by
  rw [rangeValue_eq] at h ⊢
  obtain ⟨start, hstart, h⟩ := bind_ok_iff.mp h
  obtain ⟨step, hstep, h⟩ := bind_ok_iff.mp h
  obtain ⟨stop, hstop, h⟩ := bind_ok_iff.mp h
  refine bind_ok_iff.mpr ⟨start, number_loosens hs hstart, ?_⟩
  refine bind_ok_iff.mpr ⟨step, ?_, ?_⟩
  · rw [stepValue] at hstep ⊢
    split at hstep
    · exact number_loosens hs hstep
    · exact hstep
  refine bind_ok_iff.mpr ⟨stop, number_loosens hs hstop, ?_⟩
  obtain ⟨elements, helements, rfl⟩ := map_ok_iff.mp (mapError_ok_iff.mp h)
  exact mapError_ok_iff.mpr (map_ok_iff.mpr ⟨elements, rangeElements_mono hs.vector helements, rfl⟩)

/-- A wave that has a value keeps it. -/
theorem waveValue_loosens (hs : s.Loosens s') {isSine : Bool} {v : Value}
    (h : waveValue s store isSine = .ok v) : waveValue s' store isSine = .ok v := by
  rw [waveValue] at h ⊢
  split at h
  · exact unresolved_loosens hs h
  · rw [hs.frequency]
    exact h

/-- So does a transform. -/
theorem transformValue_loosens (hs : s.Loosens s') {argument : Option Text} {v : Value}
    (h : transformValue s store argument = .ok v) : transformValue s' store argument = .ok v := by
  unfold transformValue at h ⊢
  split at h
  · exact unresolved_loosens hs h
  · split at h
    · exact unresolved_loosens hs h
    · exact h

/-- So does a size. -/
theorem size_loosens (hs : s.Loosens s') {arg : Text} {n : Int}
    (h : size s store arg = .ok n) : size s' store arg = .ok n := by
  rw [size] at h ⊢
  split at h
  · exact h
  · obtain ⟨x, hx, h⟩ := bind_ok_iff.mp h
    exact bind_ok_iff.mpr ⟨x, number_loosens hs hx, h⟩

/-- So does a product of sizes. -/
theorem totalSize_loosens (hs : s.Loosens s') {args : List Text} {n : Nat}
    (h : totalSize s store args = .ok n) : totalSize s' store args = .ok n := by
  rw [totalSize] at h ⊢
  generalize 1 = total at h ⊢
  induction args generalizing total with
  | nil => exact h
  | cons arg args ih =>
      rw [List.foldlM_cons] at h ⊢
      obtain ⟨total', htotal, h⟩ := bind_ok_iff.mp h
      obtain ⟨k, hk, htotal⟩ := bind_ok_iff.mp htotal
      exact bind_ok_iff.mpr
        ⟨total', bind_ok_iff.mpr ⟨k, size_loosens hs hk, htotal⟩, ih total' h⟩

/-- A count within a limit is within a larger one. -/
theorem randomCount_loosens (hs : s.Loosens s') {sizes : List Text} {n : Nat}
    (h : randomCount s store sizes = .ok n) : randomCount s' store sizes = .ok n := by
  rw [randomCount] at h ⊢
  obtain ⟨count, hcount, h⟩ := bind_ok_iff.mp h
  refine bind_ok_iff.mpr ⟨count, totalSize_loosens hs hcount, ?_⟩
  split at h
  · cases h
  · rename_i hfits
    have hvector := hs.vector
    rw [if_neg (by omega)]
    exact h

/-- A right-hand side that has a value has the same under looser settings. -/
theorem value_loosens (hs : s.Loosens s') {draw : Nat → Float} {used : Nat} {shape : Shape}
    {drawn : Drawn} (h : shape.value s draw used store = .ok drawn) :
    shape.value s' draw used store = .ok drawn := by
  cases shape with
  | range r =>
      obtain ⟨v, hv, rfl⟩ := map_ok_iff.mp h
      exact map_ok_iff.mpr ⟨v, rangeValue_loosens hs hv, rfl⟩
  | wave isSine =>
      obtain ⟨v, hv, rfl⟩ := map_ok_iff.mp h
      exact map_ok_iff.mpr ⟨v, waveValue_loosens hs hv, rfl⟩
  | transform argument =>
      obtain ⟨v, hv, rfl⟩ := map_ok_iff.mp h
      exact map_ok_iff.mpr ⟨v, transformValue_loosens hs hv, rfl⟩
  | random sizes =>
      obtain ⟨count, hcount, h⟩ := bind_ok_iff.mp h
      exact bind_ok_iff.mpr ⟨count, randomCount_loosens hs hcount, h⟩
  | literal x => exact h
  | arithmetic expr =>
      obtain ⟨v, hv, rfl⟩ := map_ok_iff.mp h
      obtain ⟨x, hx, rfl⟩ := map_ok_iff.mp hv
      exact map_ok_iff.mpr ⟨_, map_ok_iff.mpr ⟨x, number_loosens hs hx, rfl⟩, rfl⟩

end Shape

/-! ## Statements -/

/-- A plot looks at no limit. -/
theorem Plot.update_loosens {s s' : Settings} (hs : s.Loosens s') (store : Store)
    (dataset : Dataset) : update s' store dataset = update s store dataset := by
  simp only [update, addFrequencies, hs.sampleRate]

namespace Statement

variable {s s' : Settings} {draw : Nat → Float} {st st' : State} {t : Statement}

/-- A statement that succeeds has the same effect under looser settings. -/
theorem exec_loosens (hs : s.Loosens s') (h : t.exec s draw st = (st', none)) :
    t.exec s' draw st = (st', none) := by
  cases t with
  | assign name expr =>
      rw [exec, assignTo] at h ⊢
      split at h
      · rename_i drawn hdrawn
        have hdrawn' : evaluateExpression s' draw st.draws st.store expr = .ok drawn :=
          Shape.value_loosens hs hdrawn
        rw [hdrawn']
        exact h
      · cases h
  | print call =>
      rw [exec_print] at h ⊢
      exact emitAll_ok_mono hs.output h
  | plot =>
      rw [exec, Plot.update_loosens hs]
      exact h
  | clearAll => exact h
  | clear names => exact h
  | clearConsole => exact emitAll_ok_mono hs.output h
  | close => exact h
  | echo text => exact emitAll_ok_mono hs.output h
  | blank => cases h

/-- A statement prints at least as much under looser settings. -/
theorem transcript_prefix_exec_loosens (hs : s.Loosens s') (draw : Nat → Float) (st : State)
    (t : Statement) :
    (t.exec s draw st).1.transcript <+: (t.exec s' draw st).1.transcript := by
  rw [transcript_exec, transcript_exec]
  exact transcript_prefix_emitAll_mono hs.output st _

end Statement

/-! ## Runs -/

namespace Program

variable {s s' : Settings} {clock draw : Nat → Float}

/-- A step that is admitted is admitted by larger limits. -/
theorem Admits.loosens (hs : s.Loosens s') {steps : Nat} (h : Admits s clock steps) :
    Admits s' clock steps := by
  have hsteps := hs.steps
  have hmany := h.2
  exact ⟨fun hlate => h.1 (hs.time _ hlate), by omega⟩

/-- The moments of a run are moments of the run under looser settings. -/
theorem Reaches.loosens (hs : s.Loosens s') {m m' : Moment} (h : Reaches s clock draw m m') :
    Reaches s' clock draw m m' := by
  induction h with
  | refl => exact .refl
  | step _ hadm hrun ih => exact .step ih (hadm.loosens hs) (Statement.exec_loosens hs hrun)

/-- A dispatched statement's lines are among those of the run. -/
theorem transcript_prefix_of_admits {steps : Nat} (hadm : Admits s clock steps) (st : State)
    (line : Nat) (text : Text) (rest : List (Nat × Text)) :
    (Statement.run s draw st text).1.transcript <+:
      (runFrom s clock draw steps st ((line, text) :: rest)).state.transcript := by
  rcases hrun : Statement.run s draw st text with ⟨st', failure | failure⟩
  · rw [runFrom_of_success hadm hrun]
    exact (runFrom_frame (steps + 1) st' rest).transcript
  · rw [runFrom_of_failure hadm hrun]

/-- A run that succeeds is the run under looser settings. -/
theorem Moment.finish_loosens (hs : s.Loosens s') {m : Moment}
    (h : (m.finish s clock draw).stop = none) :
    m.finish s' clock draw = m.finish s clock draw := by
  obtain ⟨m', hreach, hends⟩ := exists_ends s clock draw m
  rw [(hreach.loosens hs).finish_eq]
  generalize m.finish s clock draw = p at h hends
  cases hends with
  | done => rfl
  | overdue late => cases h
  | exhausted many => cases h
  | failed hadm hrun => cases h

/-- A run prints a front of what it prints under looser settings. -/
theorem Moment.transcript_prefix_loosens (hs : s.Loosens s') (m : Moment) :
    (m.finish s clock draw).state.transcript <+: (m.finish s' clock draw).state.transcript := by
  obtain ⟨m', hreach, hends⟩ := exists_ends s clock draw m
  rw [(hreach.loosens hs).finish_eq]
  generalize m.finish s clock draw = p at hends
  cases hends with
  | done => exact List.prefix_rfl
  | overdue late => exact (runFrom_frame _ _ _).transcript
  | exhausted many => exact (runFrom_frame _ _ _).transcript
  | @failed steps st st' line text rest failure hadm hrun =>
      -- the failed statement may succeed under the looser settings, and the run go on
      have hstmt := Statement.transcript_prefix_exec_loosens hs draw st (Statement.ofText text)
      rw [← Statement.run, hrun] at hstmt
      exact hstmt.trans (transcript_prefix_of_admits (hadm.loosens hs) st line text rest)

/-- Under looser settings a success stays what it is, and a failure printed no line that is not
printed then. -/
theorem outcome_loosens (hs : s.Loosens s') (clock draw : Nat → Float) (code : Text) :
    ((run s clock draw code).success = true → run s' clock draw code = run s clock draw code) ∧
      ((run s clock draw code).success = false →
        (run s clock draw code).transcript.dropLast <+: (run s' clock draw code).transcript) := by
  constructor
  · intro h
    have hstop := (Progress.success_outcome_iff clock _).mp h
    exact congrArg (Progress.outcome clock)
      (Moment.finish_loosens hs (m := Moment.start 0 code) hstop)
  · intro h
    rw [run, Progress.dropLast_transcript_outcome clock h]
    have hfront : (execute s clock draw 0 code).state.transcript <+:
        (execute s' clock draw 0 code).state.transcript :=
      Moment.transcript_prefix_loosens hs (.start 0 code)
    exact (hfront.map _).trans (Progress.transcript_prefix_outcome clock _)

/-- Larger limits, all else being equal: a run that succeeds does so with the same transcript and
the same dataset, and a run that fails printed, its error line aside, a front of what is printed
then. -/
theorem run_larger_limits (s : Settings) {maxSteps maxOutput maxVector : Int} {maxTime : Float}
    (hsteps : s.maxSteps ≤ maxSteps) (htime : s.maxTime ≤ maxTime)
    (houtput : s.maxOutput ≤ maxOutput) (hvector : s.maxVector ≤ maxVector)
    (clock draw : Nat → Float) (code : Text) :
    let smaller := run s clock draw code
    let larger := run { s with maxSteps, maxTime, maxOutput, maxVector } clock draw code
    (smaller.success = true → larger.success = true ∧ larger.transcript = smaller.transcript ∧
      larger.dataset = smaller.dataset) ∧
    (smaller.success = false → smaller.transcript.dropLast <+: larger.transcript) := by
  have hs : s.Loosens { s with maxSteps, maxTime, maxOutput, maxVector } :=
    { steps := hsteps
      time := fun _ hlate => Double.lt_of_le_of_lt htime hlate
      output := houtput
      vector := hvector
      fallback := .inl rfl
      frequency := rfl
      sampleRate := rfl }
  obtain ⟨hsuccess, hfailure⟩ := outcome_loosens hs clock draw code
  refine ⟨fun h => ?_, hfailure⟩
  rw [hsuccess h]
  exact ⟨h, rfl, rfl⟩

/-- Three characters of output are too few for the second line, and six are enough. -/
theorem run_larger_limits_of_echoes :
    let small : Settings := { Settings.standard with maxSteps := 5, maxTime := 1.0, maxOutput := 3 }
    let large : Settings := { Settings.standard with maxSteps := 6, maxTime := 2.0, maxOutput := 6 }
    let code : Text := "one\ntwo"
    (small.maxSteps ≤ large.maxSteps ∧ small.maxTime ≤ large.maxTime ∧
      small.maxOutput ≤ large.maxOutput ∧ small.maxVector ≤ large.maxVector) ∧
    (run small (fun _ => 0.0) (fun _ => 0.0) code).success = false ∧
    (run small (fun _ => 0.0) (fun _ => 0.0) code).transcript.dropLast <+:
      (run large (fun _ => 0.0) (fun _ => 0.0) code).transcript := by
  intro small large code
  have hsteps : small.maxSteps ≤ large.maxSteps := by decide
  have htime : small.maxTime ≤ large.maxTime := by decide +kernel
  have houtput : small.maxOutput ≤ large.maxOutput := by decide
  have hvector : small.maxVector ≤ large.maxVector := by decide
  have hfails : (run small (fun _ => 0.0) (fun _ => 0.0) code).success = false := by
    decide +kernel
  exact ⟨⟨hsteps, htime, houtput, hvector⟩, hfails,
    (run_larger_limits small hsteps htime houtput hvector (fun _ => 0.0) (fun _ => 0.0) code).2
      hfails⟩

/-- Recovering failed evaluations in place of raising them: a run that succeeds without recovery
does so with it, with the same transcript and the same dataset, and a run that fails without it
printed, its error line aside, a front of what is printed with it. -/
theorem run_recovering (s : Settings) (clock draw : Nat → Float) (code : Text) :
    let strict := run { s with fallback := .raise } clock draw code
    let recovering := run { s with fallback := .zero } clock draw code
    (strict.success = true → recovering.success = true ∧
      recovering.transcript = strict.transcript ∧ recovering.dataset = strict.dataset) ∧
    (strict.success = false → strict.transcript.dropLast <+: recovering.transcript) := by
  have hs : Settings.Loosens { s with fallback := .raise } { s with fallback := .zero } :=
    { steps := Int.le_refl _
      time := fun _ hlate => hlate
      output := Int.le_refl _
      vector := Int.le_refl _
      fallback := .inr rfl
      frequency := rfl
      sampleRate := rfl }
  obtain ⟨hsuccess, hfailure⟩ := outcome_loosens hs clock draw code
  refine ⟨fun h => ?_, hfailure⟩
  rw [hsuccess h]
  exact ⟨h, rfl, rfl⟩

/-- Plain lines are echoed under either policy, and a quotient by zero stops the strict run only. -/
theorem run_recovering_of_quotient :
    let strict : Settings := { Settings.standard with fallback := .raise }
    let recovering : Settings := { Settings.standard with fallback := .zero }
    let clock : Nat → Float := fun _ => 0.0
    ((run strict clock clock "one\ntwo").success = true ∧
      (run recovering clock clock "one\ntwo").transcript =
        (run strict clock clock "one\ntwo").transcript) ∧
    ((run strict clock clock "one\nx = 1/0\ntwo").success = false ∧
      (run recovering clock clock "one\nx = 1/0\ntwo").success = true ∧
      (run strict clock clock "one\nx = 1/0\ntwo").transcript.dropLast <+:
        (run recovering clock clock "one\nx = 1/0\ntwo").transcript) := by
  intro strict recovering clock
  have hsucceeds : (run strict clock clock "one\ntwo").success = true := by decide +kernel
  have hfails : (run strict clock clock "one\nx = 1/0\ntwo").success = false := by decide +kernel
  have hrecovers : (run recovering clock clock "one\nx = 1/0\ntwo").success = true := by
    decide +kernel
  exact ⟨⟨hsucceeds, ((run_recovering Settings.standard clock clock "one\ntwo").1 hsucceeds).2.1⟩,
    hfails, hrecovers,
    (run_recovering Settings.standard clock clock "one\nx = 1/0\ntwo").2 hfails⟩

end Program

end SignalLab
