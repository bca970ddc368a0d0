import SignalLab.Proofs.Fallible
import SignalLab.Proofs.Program.Moment
import SignalLab.Proofs.Program.Range
import SignalLab.Proofs.Program.Transcript
import SignalLab.Proofs.Text.Trimming

/-!
# Recovery — what the lenient policy recovers, and what it does not

Under the policy that counts a failed evaluation as zero, an expression always has a value, so a
range, a transform and random numbers fail at a limit only, and a print call never fails but at the
limit on the output.  Two failures are not evaluations of expressions and stay: a wave that turns by
an infinite angle at one of its times (`InfiniteAngle`), and a plot of a spectrum with a modulus
beyond the largest double (`HugeModulus`).

  * `Statement.exec_failure_of_zero`, `Statement.exec_of_unrecovered` — a statement fails otherwise
    than at a limit exactly at those two places.
  * `Program.Reaches.stop_of_unrecovered`, `Program.stop_of_recovered` — a lenient run ends otherwise
    than by success or at a limit exactly if it dispatches such a statement.
-/

namespace SignalLab

open Fallible

/-- Under the lenient policy a text always stands for a double. -/
theorem evaluate_zero (env : Expression.Environment) (text : Text) :
    ∃ x, evaluate .zero env text = .ok x := by
  unfold evaluate
  cases evalText env text with
  | ok x => exact ⟨x, rfl⟩
  | error e => exact ⟨0.0, rfl⟩

namespace Shape

variable {s : Settings} {store : Store} {failure : Failure}

/-! ## Expressions, ranges, transforms and random numbers -/

/-- Under the recovering policy every text has a number. -/
theorem number_ok_of_zero (hs : s.fallback = .zero) (store : Store) (expr : Text) :
    ∃ x, number s store expr = .ok x := by
  obtain ⟨x, hx⟩ := evaluate_zero store.scalars expr
  refine ⟨x, ?_⟩
  rw [number, hs, hx]
  rfl

/-- Zero stands for whatever cannot be found. -/
theorem unresolved_of_zero (hs : s.fallback = .zero) (reason : Unresolved) :
    unresolved s reason = .ok .zero := by
  rw [unresolved, hs]

/-- Every size is a number. -/
theorem size_ok_of_zero (hs : s.fallback = .zero) (store : Store) (arg : Text) :
    ∃ n, size s store arg = .ok n := by
  rw [size]
  split
  · exact ⟨_, rfl⟩
  · obtain ⟨x, hx⟩ := number_ok_of_zero hs store arg
    rw [hx]
    exact ⟨_, rfl⟩

/-- So is their product. -/
theorem totalSize_ok_of_zero (hs : s.fallback = .zero) (store : Store) (args : List Text) :
    ∃ n, totalSize s store args = .ok n := by
  rw [totalSize]
  generalize 1 = total
  induction args generalizing total with
  | nil => exact ⟨total, rfl⟩
  | cons arg args ih =>
      obtain ⟨n, hn⟩ := size_ok_of_zero hs store arg
      obtain ⟨m, hm⟩ := ih (total * n.toNat)
      refine ⟨m, ?_⟩
      rw [List.foldlM_cons, hn]
      exact hm

/-- A count fails only for a limit. -/
theorem randomCount_error_of_zero (hs : s.fallback = .zero) {sizes : List Text}
    (h : randomCount s store sizes = .error failure) : ∃ b, failure = .breach b := by
  obtain ⟨n, hn⟩ := totalSize_ok_of_zero hs store sizes
  rw [randomCount, hn] at h
  change (if s.maxVector < n then Except.error (Failure.breach (.randomLength s.maxVector))
    else .ok n) = .error failure at h
  split at h
  · cases h
    exact ⟨_, rfl⟩
  · cases h

/-- So does a range. -/
theorem rangeValue_error_of_zero (hs : s.fallback = .zero) {r : RangeText}
    (h : rangeValue s store r = .error failure) : ∃ b, failure = .breach b := by
  have hnumber : ∀ expr e, number s store expr ≠ .error e := by
    intro expr e heq
    obtain ⟨x, hx⟩ := number_ok_of_zero hs store expr
    rw [hx] at heq
    cases heq
  rw [rangeValue_eq] at h
  rcases bind_error_iff.mp h with hstart | ⟨start, -, h⟩
  · exact absurd hstart (hnumber _ _)
  rcases bind_error_iff.mp h with hstep | ⟨step, -, h⟩
  · rw [stepValue] at hstep
    split at hstep
    · exact absurd hstep (hnumber _ _)
    · cases hstep
  rcases bind_error_iff.mp h with hstop | ⟨stop, -, h⟩
  · exact absurd hstop (hnumber _ _)
  obtain ⟨b, -, hb⟩ := mapError_error_iff.mp h
  exact ⟨b, hb.symm⟩

/-- A transform never fails. -/
theorem transformValue_ok_of_zero (hs : s.fallback = .zero) (store : Store)
    (argument : Option Text) : ∃ v, transformValue s store argument = .ok v := by
  unfold transformValue
  split
  · exact ⟨_, unresolved_of_zero hs _⟩
  · split
    · exact ⟨_, unresolved_of_zero hs _⟩
    · exact ⟨_, rfl⟩

/-! ## Waves -/

/-- Whether a wave over the time vector turns by an infinite angle at one of the times. -/
def InfiniteAngle (s : Settings) (store : Store) : Prop :=
  ∃ times, store.realVector? "t" = some times ∧
    ∃ t ∈ times,
      (Spectrum.turn * (store.scalar? "f").getD s.defaultFrequency * t).isInf = true

/-- Sine and cosine fail exactly at an infinite angle. -/
theorem sin_or_cos_error_iff (isSine : Bool) (x : Float) (e : Fault) :
    (if isSine then Double.sin else Double.cos) x = .error e ↔ e = .domain ∧ x.isInf = true := by
  cases isSine <;>
  · by_cases h : x.isInf = true <;> simp [Double.sin, Double.cos, Double.ofAngle, h, eq_comm]

/-- A wave fails for an infinite angle, and for nothing else. -/
theorem waveSamples_error_iff (isSine : Bool) (frequency : Float) (times : List Float)
    (e : Fault) : waveSamples isSine frequency times = .error e ↔
      e = .domain ∧ ∃ t ∈ times, (Spectrum.turn * frequency * t).isInf = true := by
  rw [waveSamples, mapM_error_iff (fun t e h => ((sin_or_cos_error_iff _ _ _).mp h).1)]
  simp only [sin_or_cos_error_iff, true_and]

/-- So does one of the variables. -/
theorem waveValue_error_iff_of_zero (hs : s.fallback = .zero) (isSine : Bool) :
    waveValue s store isSine = .error failure ↔
      failure = .arithmetic .domain ∧ InfiniteAngle s store := by
  rw [waveValue, InfiniteAngle]
  cases ht : store.realVector? "t" with
  | none => simp [unresolved_of_zero hs]
  | some times =>
      simp only [mapError_error_iff, map_error_iff, waveSamples_error_iff, Option.some.injEq,
        exists_eq_left']
      constructor
      · rintro ⟨e, ⟨rfl, hinf⟩, rfl⟩
        exact ⟨rfl, hinf⟩
      · rintro ⟨rfl, hinf⟩
        exact ⟨_, ⟨rfl, hinf⟩, rfl⟩

/-- Under the lenient policy a right-hand side fails at a limit or is a wave at an infinite
angle. -/
theorem value_error_of_zero (hs : s.fallback = .zero) {draw : Nat → Float} {used : Nat}
    {shape : Shape} (h : shape.value s draw used store = .error failure) :
    (∃ b, failure = .breach b) ∨
      (∃ isSine, shape = .wave isSine) ∧ failure = .arithmetic .domain ∧
        InfiniteAngle s store := by
  cases shape with
  | range r => exact .inl (rangeValue_error_of_zero hs (map_error_iff.mp h))
  | wave isSine =>
      exact .inr ⟨⟨isSine, rfl⟩, (waveValue_error_iff_of_zero hs isSine).mp (map_error_iff.mp h)⟩
  | transform argument =>
      obtain ⟨v, hv⟩ := transformValue_ok_of_zero hs store argument
      rw [value, hv] at h
      cases h
  | random sizes =>
      rcases bind_error_iff.mp h with hcount | ⟨count, -, h⟩
      · exact .inl (randomCount_error_of_zero hs hcount)
      · cases h
  | literal x => cases h
  | arithmetic expr =>
      obtain ⟨x, hx⟩ := number_ok_of_zero hs store expr
      rw [value, hx] at h
      cases h

end Shape

/-! ## Plots -/

namespace Plot

variable {s : Settings} {store : Store} {dataset : Dataset}

/-- Whether a plot over frequency meets a modulus beyond the largest double. -/
def HugeModulus (store : Store) : Prop :=
  (store.realVector? "t").isSome = true ∧ (store.realVector? "x").isSome = true ∧
    ∃ spectrum, store.complexVector? "X" = some spectrum ∧
      ∃ z ∈ spectrum.take ((spectrum.length + 1) / 2), z.re.isFinite = true ∧
        z.im.isFinite = true ∧ (Double.hypot z.re z.im).isFinite = false

/-- The modulus fails exactly where finite parts have no finite length. -/
theorem modulus_error_iff (z : ComplexDouble) (e : Fault) :
    z.modulus = .error e ↔ e = .modulusRange ∧ z.re.isFinite = true ∧ z.im.isFinite = true ∧
      (Double.hypot z.re z.im).isFinite = false := by
  rw [ComplexDouble.modulus]
  split
  · rename_i h
    simp only [Bool.and_eq_true, Bool.not_eq_true'] at h
    constructor
    · intro heq
      cases heq
      exact ⟨rfl, h.1.1, h.1.2, h.2⟩
    · rintro ⟨rfl, -⟩
      rfl
  · rename_i h
    constructor
    · intro heq
      cases heq
    · rintro ⟨-, hre, him, hsize⟩
      exact absurd (by simp [hre, him, hsize]) h

/-- A spectrum is plotted unless the modulus of a finite bin is infinite. -/
theorem frequencySeries_error_iff (fs : Float) (spectrum : List ComplexDouble) (e : Fault) :
    frequencySeries fs spectrum = .error e ↔
      e = .modulusRange ∧ ∃ z ∈ spectrum.take ((spectrum.length + 1) / 2), z.re.isFinite = true ∧
        z.im.isFinite = true ∧ (Double.hypot z.re z.im).isFinite = false := by
  rw [frequencySeries, bind_error_iff,
    mapM_error_iff (fun z e h => ((modulus_error_iff z e).mp h).1)]
  simp only [modulus_error_iff, true_and]
  constructor
  · rintro (h | ⟨ys, -, h⟩)
    · exact h
    · cases h
  · exact .inl

/-- A plot fails for such a bin, and for nothing else. -/
theorem addFrequencies_error_iff (e : Fault) :
    addFrequencies s store dataset = .error e ↔
      e = .modulusRange ∧ ∃ spectrum, store.complexVector? "X" = some spectrum ∧
        ∃ z ∈ spectrum.take ((spectrum.length + 1) / 2), z.re.isFinite = true ∧
          z.im.isFinite = true ∧ (Double.hypot z.re z.im).isFinite = false := by
  rw [addFrequencies]
  generalize store.complexVector? "X" = spectrum?
  cases spectrum? with
  | none => simp
  | some spectrum =>
      simp only [Option.some.injEq, exists_eq_left']
      cases spectrum with
      | nil => simp
      | cons z zs =>
          rw [map_error_iff, frequencySeries_error_iff]

/-- A plot fails exactly at a modulus beyond the largest double. -/
theorem update_fault_iff (e : Fault) :
    (update s store dataset).2 = some e ↔ e = .modulusRange ∧ HugeModulus store := by
  rw [update, HugeModulus]
  split
  · rename_i t x ht hx
    rw [ht, hx]
    simp only [Option.isSome_some, true_and]
    rw [← @addFrequencies_error_iff s store (Keyed.assign timeName (timeSeries t x) dataset) e]
    cases addFrequencies s store (Keyed.assign timeName (timeSeries t x) dataset) with
    | ok dataset' => simp
    | error fault => simp
  · rename_i hnone
    constructor
    · intro h
      cases h
    · rintro ⟨-, ht, hx, -⟩
      obtain ⟨t, ht⟩ := Option.isSome_iff_exists.mp ht
      obtain ⟨x, hx⟩ := Option.isSome_iff_exists.mp hx
      exact absurd hx (hnone t x ht)

end Plot

/-! ## Statements -/

namespace Statement

variable {s : Settings} {draw : Nat → Float} {st st' : State} {failure : Failure}

/-- The statements that fail otherwise than at a limit even under the lenient policy, and how. -/
inductive Unrecovered (s : Settings) (st : State) : Statement → Fault → Prop
  | wave {name expr : Text} {isSine : Bool} (shape : Shape.ofText expr = .wave isSine)
      (angle : Shape.InfiniteAngle s st.store) : Unrecovered s st (.assign name expr) .domain
  | plot (modulus : Plot.HugeModulus st.store) : Unrecovered s st .plot .modulusRange

/-- Printing fails only for a limit. -/
theorem emitAll_failure {lines : List Text} (h : emitAll s st lines = (st', some failure)) :
    ∃ b, failure = .breach b :=
  ⟨.output, (emitAll_breach h).1⟩

/-- Under the lenient policy a statement fails at a limit or is one of the unrecovered ones. -/
theorem exec_failure_of_zero (hs : s.fallback = .zero) {t : Statement} (hblank : t ≠ .blank)
    (h : t.exec s draw st = (st', some failure)) :
    (∃ b, failure = .breach b) ∨
      ∃ fault, failure = .arithmetic fault ∧ Unrecovered s st t fault := by
  cases t with
  | assign name expr =>
      rw [exec, assignTo] at h
      split at h
      · cases h
      · rename_i failure' heq
        cases h
        rcases Shape.value_error_of_zero hs heq with hb | ⟨⟨isSine, hshape⟩, rfl, hangle⟩
        · exact .inl hb
        · exact .inr ⟨.domain, rfl, .wave hshape hangle⟩
  | print call =>
      rw [exec_print] at h
      exact .inl (emitAll_failure h)
  | plot =>
      -- all that can fail in a plot is a magnitude
      have hsome : (Plot.update s st.store st.dataset).2.map Failure.arithmetic = some failure :=
        congrArg Prod.snd h
      obtain ⟨fault, hfault, rfl⟩ := Option.map_eq_some_iff.mp hsome
      obtain ⟨rfl, hmodulus⟩ := (Plot.update_fault_iff fault).mp hfault
      exact .inr ⟨.modulusRange, rfl, .plot hmodulus⟩
  | clearAll => cases h
  | clear names => cases h
  | clearConsole => exact .inl (emitAll_failure h)
  | close => cases h
  | echo text => exact .inl (emitAll_failure h)
  | blank => exact absurd rfl hblank

/-- The unrecovered statements do fail. -/
theorem exec_of_unrecovered (hs : s.fallback = .zero) (draw : Nat → Float) {t : Statement}
    {fault : Fault} (h : Unrecovered s st t fault) :
    (t.exec s draw st).2 = some (.arithmetic fault) := by
  cases h with
  | @wave name expr isSine hshape hangle =>
      have hvalue : Shape.waveValue s st.store isSine = .error (.arithmetic .domain) :=
        (Shape.waveValue_error_iff_of_zero hs isSine).mpr ⟨rfl, hangle⟩
      rw [exec, assignTo, evaluateExpression, hshape, Shape.value, hvalue]
      rfl
  | plot hmodulus =>
      change ((Plot.update s st.store st.dataset).2.map Failure.arithmetic) = _
      rw [(Plot.update_fault_iff .modulusRange).mpr ⟨rfl, hmodulus⟩]
      rfl

end Statement

/-! ## Runs -/

namespace Program

variable {s : Settings} {clock draw : Nat → Float}

/-- No statement of a program is blank. -/
theorem ofText_ne_blank_of_mem {code : Text} {line : Nat} {text : Text}
    (h : (line, text) ∈ statements code) : Statement.ofText text ≠ .blank := by
  rw [statements, List.mem_flatMap] at h
  obtain ⟨⟨source, number⟩, -, h⟩ := h
  obtain ⟨text', hmem, heq⟩ := List.mem_map.mp h
  cases heq
  rw [lineStatements] at hmem
  split at hmem
  · cases hmem
  · exact Statement.ofText_ne_blank (Statement.isBlankText_of_mem_split hmem)

/-- The codes of the four limits. -/
def limitCodes : List Text :=
  ["STEP_LIMIT", "TIMEOUT", "OUTPUT_LIMIT", "VECTOR_LIMIT"]

/-- Every limit has a code. -/
theorem code_mem_limitCodes : ∀ b : Breach, b.code ∈ limitCodes
  | .steps => .head _
  | .time => .tail _ (.head _)
  | .output => .tail _ (.tail _ (.head _))
  | .rangeLength _ => .tail _ (.tail _ (.tail _ (.head _)))
  | .randomLength _ => .tail _ (.tail _ (.tail _ (.head _)))

/-- Whether a run was stopped by one of the four limits. -/
def Progress.StoppedAtLimit (p : Progress) : Prop :=
  ∃ line b, p.stop = some ⟨line, .breach b⟩ ∧ b.code ∈ limitCodes

/-- An unrecovered statement stops a run, and not at a limit. -/
theorem Reaches.stop_of_unrecovered (hs : s.fallback = .zero) {m m' : Moment}
    (hreach : Reaches s clock draw m m') {line : Nat} {text : Text} {fault : Fault}
    (hdisp : Dispatches s clock m' line text)
    (hunrec : Statement.Unrecovered s m'.state (Statement.ofText text) fault) :
    (m.finish s clock draw).stop = some ⟨line, .arithmetic fault⟩ := by
  have hfail := Statement.exec_of_unrecovered hs draw hunrec
  rw [hreach.finish_eq]
  obtain ⟨steps, st, rest⟩ := m'
  cases rest with
  | nil => cases hdisp.next
  | cons next rest =>
      cases hdisp.next
      rw [Moment.finish, runFrom_of_failure hdisp.admitted (Prod.ext rfl hfail)]

/-- A run that dispatches no unrecovered statement ends, or is stopped at a limit. -/
theorem stop_of_recovered (hs : s.fallback = .zero) {draws : Nat} {code : Text}
    (hnever : ∀ m line text fault, Reaches s clock draw (.start draws code) m →
      Dispatches s clock m line text →
      ¬ Statement.Unrecovered s m.state (Statement.ofText text) fault) :
    (execute s clock draw draws code).stop = none ∨
      (execute s clock draw draws code).StoppedAtLimit := by
  obtain ⟨m, hreach, hends⟩ := exists_ends s clock draw (.start draws code)
  change Ends s clock draw m (execute s clock draw draws code) at hends
  generalize execute s clock draw draws code = p at hends
  cases hends with
  | done => exact .inl rfl
  | overdue late => exact .inr ⟨_, _, rfl, code_mem_limitCodes _⟩
  | exhausted many => exact .inr ⟨_, _, rfl, code_mem_limitCodes _⟩
  | @failed steps st st' line text rest failure hadm hrun =>
      -- the blank statement, which would fail under every policy, is in no program
      have hmem : (line, text) ∈ statements code :=
        hreach.rest_suffix.mem List.mem_cons_self
      rcases Statement.exec_failure_of_zero hs (ofText_ne_blank_of_mem hmem) hrun with
        ⟨b, rfl⟩ | ⟨fault, -, hunrec⟩
      · exact .inr ⟨_, b, rfl, code_mem_limitCodes b⟩
      · exact absurd hunrec (hnever _ line text fault hreach ⟨rfl, hadm⟩)

/-- A lenient run succeeds or stops at a limit exactly if it dispatches no unrecovered statement. -/
theorem succeeds_or_stops_at_limit_iff (s : Settings) (clock draw : Nat → Float) (code : Text) :
    ((run { s with fallback := .zero } clock draw code).success = true ∨
        (execute { s with fallback := .zero } clock draw 0 code).StoppedAtLimit) ↔
      ∀ m line text fault,
        Reaches { s with fallback := .zero } clock draw (.start 0 code) m →
        Dispatches { s with fallback := .zero } clock m line text →
        ¬ Statement.Unrecovered { s with fallback := .zero } m.state (Statement.ofText text)
          fault := by
  rw [run, Progress.success_outcome_iff]
  constructor
  · intro hend m line text fault hreach hdisp hunrec
    have hstop := hreach.stop_of_unrecovered rfl hdisp hunrec
    rcases hend with hnone | ⟨line', b, hlimit, -⟩
    · cases hstop.symm.trans hnone
    · cases hstop.symm.trans hlimit
  · exact stop_of_recovered rfl

/-- With an infinite frequency the sine of a time other than zero stops a run, at no limit. -/
theorem sine_of_infinite_frequency :
    let code : Text := "f = inf\nt = 0:1:1\nx = sin(t)"
    let p := execute Settings.standard (fun _ => 0.0) (fun _ => 0.0) 0 code
    p.stop.map (·.message) = some "math domain error".toList ∧
      ¬ ((run Settings.standard (fun _ => 0.0) (fun _ => 0.0) code).success = true ∨
        p.StoppedAtLimit) := by
  intro code p
  have hstop : p.stop.map (·.failure) = some (.arithmetic .domain) := by
    decide +kernel
  obtain ⟨stop, hp, hfailure⟩ := Option.map_eq_some_iff.mp hstop
  refine ⟨?_, ?_⟩
  · rw [hp, Option.map_some, Stop.message, hfailure]
    rfl
  · rintro (hsuccess | ⟨line, b, hlimit, -⟩)
    · rw [run, Progress.success_outcome_iff] at hsuccess
      change p.stop = none at hsuccess
      rw [hp] at hsuccess
      cases hsuccess
    · rw [hp] at hlimit
      cases hlimit
      cases hfailure

end Program

end SignalLab
