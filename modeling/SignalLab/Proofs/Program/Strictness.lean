import SignalLab.Proofs.Program.Range

/-!
# Strictness — what the strict policy hides, and what it does not

Under the policy that raises, a right-hand side with a value had everything it asked for:
`Shape.Resolves` lists, shape by shape, what that is.  There is one exception.  A size that asks for
the length of a variable is no expression and never comes to the policy: of a variable that is not
bound it is zero (`Shape.AsksUnbound`), the vector of random numbers is empty, and nothing says so.

`evaluateExpression_resolves_iff` is the law with that exception, and says that the exception is all
there is.
-/

namespace SignalLab

open Fallible

/-- Under the strict policy a text stands for the double it evaluates to, or for none. -/
theorem evaluate_raise (env : Expression.Environment) (text : Text) :
    evaluate .raise env text = evalText env text := by
  unfold evaluate
  cases evalText env text with
  | ok x => rfl
  | error e => rfl

namespace Shape

/-! ## What a right-hand side asks for -/

/-- Whether a text is an expression with a value. -/
def Evaluates (store : Store) (expr : Text) : Prop :=
  ∃ x, evalText store.scalars expr = .ok x

/-- The variable whose length a size in a call of random numbers asks for. -/
def namedSize? (arg : Text) : Option Text :=
  lengthOf? ["length", "numel", "size"] arg

/-- Whether a size is the length of a bound variable, or else an expression with a value. -/
inductive SizeResolves (store : Store) (arg : Text) : Prop
  | named {name : Text} (named : namedSize? arg = some name) (bound : store.contains name = true)
  | expression (unnamed : namedSize? arg = none) (evaluates : Evaluates store arg)

/-- Whether everything that a right-hand side of a shape asks for is there. -/
inductive Resolves (store : Store) : Shape → Prop
  | range {r : RangeText} (parts : ∀ part ∈ r.toList, Evaluates store part) :
      Resolves store (.range r)
  | wave {isSine : Bool} {times : List Float} (found : store.realVector? "t" = some times) :
      Resolves store (.wave isSine)
  | transform {name : Text} {signal : List Float} (found : store.realVector? name = some signal) :
      Resolves store (.transform (some name))
  | random {sizes : List Text} (each : ∀ arg ∈ sizes, SizeResolves store arg) :
      Resolves store (.random sizes)
  | literal (x : Float) : Resolves store (.literal x)
  | arithmetic {expr : Text} (evaluates : Evaluates store expr) : Resolves store (.arithmetic expr)

/-- Whether random numbers have a size that asks for the length of a variable that is not bound. -/
inductive AsksUnbound (store : Store) : Shape → Prop
  | size {sizes : List Text} {arg name : Text} (mem : arg ∈ sizes)
      (named : namedSize? arg = some name) (unbound : store.contains name = false) :
      AsksUnbound store (.random sizes)

variable {s : Settings} {store : Store}

/-! ## Values under the strict policy -/

theorem evaluates_of_number (hs : s.fallback = .raise) {expr : Text} {x : Float}
    (h : number s store expr = .ok x) : Evaluates store expr := by
  rw [number, hs, evaluate_raise, mapError_ok_iff] at h
  exact ⟨x, h⟩

theorem unresolved_of_raise (hs : s.fallback = .raise) (reason : Unresolved) :
    unresolved s reason = .error (.unresolved reason) := by
  rw [unresolved, hs]

theorem resolves_range (hs : s.fallback = .raise) {r : RangeText} {v : Value}
    (h : rangeValue s store r = .ok v) : Resolves store (.range r) := by
  rw [rangeValue_eq] at h
  obtain ⟨start, hstart, h⟩ := bind_ok_iff.mp h
  obtain ⟨step, hstep, h⟩ := bind_ok_iff.mp h
  obtain ⟨stop, hstop, -⟩ := bind_ok_iff.mp h
  refine .range fun part hpart => ?_
  -- the step is a part only where it is written; without one it is not evaluated
  rw [RangeText.toList, List.mem_cons, List.mem_append, List.mem_singleton] at hpart
  rcases hpart with rfl | hmem | rfl
  · exact evaluates_of_number hs hstart
  · rw [stepValue, Option.mem_toList.mp hmem] at hstep
    exact evaluates_of_number hs hstep
  · exact evaluates_of_number hs hstop

theorem resolves_wave (hs : s.fallback = .raise) {isSine : Bool} {v : Value}
    (h : waveValue s store isSine = .ok v) : Resolves store (.wave isSine) := by
  cases htimes : store.realVector? "t" with
  | none =>
      rw [waveValue, htimes, unresolved_of_raise hs] at h
      cases h
  | some times => exact .wave htimes

theorem resolves_transform (hs : s.fallback = .raise) {argument : Option Text} {v : Value}
    (h : transformValue s store argument = .ok v) : Resolves store (.transform argument) := by
  cases argument with
  | none =>
      rw [transformValue, unresolved_of_raise hs] at h
      cases h
  | some name =>
      cases hsignal : store.realVector? name with
      | none =>
          rw [transformValue, hsignal, unresolved_of_raise hs] at h
          cases h
      | some signal => exact .transform hsignal

/-! ## Sizes -/

/-- A size with a value is resolved, or asks for a variable that is not bound. -/
theorem sizeResolves_or_unbound (hs : s.fallback = .raise) {arg : Text} {n : Int}
    (h : size s store arg = .ok n) : SizeResolves store arg ∨
      ∃ name, namedSize? arg = some name ∧ store.contains name = false := by
  cases hnamed : namedSize? arg with
  | none =>
      change lengthOf? ["length", "numel", "size"] arg = none at hnamed
      rw [size, hnamed] at h
      obtain ⟨x, hx, -⟩ := bind_ok_iff.mp h
      exact .inl (.expression hnamed (evaluates_of_number hs hx))
  | some name =>
      cases hbound : store.contains name with
      | true => exact .inl (.named hnamed hbound)
      | false => exact .inr ⟨name, rfl, hbound⟩

theorem size_of_unbound {arg name : Text} (hnamed : namedSize? arg = some name)
    (hunbound : store.contains name = false) : size s store arg = .ok 0 := by
  change lengthOf? ["length", "numel", "size"] arg = some name at hnamed
  rw [Store.contains, Option.isSome_eq_false_iff, Option.isNone_iff_eq_none] at hunbound
  rw [size, hnamed]
  show Except.ok (elementCount (store.get? name) : Int) = .ok 0
  rw [hunbound]
  rfl

/-- Every size of a product with a value had one. -/
theorem size_ok_of_totalSize {sizes : List Text} {total : Nat}
    (h : totalSize s store sizes = .ok total) : ∀ arg ∈ sizes, ∃ n, size s store arg = .ok n := by
  intro arg harg
  obtain ⟨before, after, hstep⟩ := exists_of_foldlM_ok h arg harg
  obtain ⟨n, hn, -⟩ := bind_ok_iff.mp hstep
  exact ⟨n, hn⟩

/-- What is resolved asks for no unbound variable. -/
theorem not_asksUnbound_of_resolves {shape : Shape} (h : Resolves store shape) :
    ¬ AsksUnbound store shape := by
  rintro ⟨hmem, hnamed, hunbound⟩
  obtain _ | _ | _ | heach | _ | _ := h
  -- a size names one variable at most, which is bound or not
  cases heach _ hmem with
  | named hname hbound =>
      obtain rfl := Option.some.inj (hname.symm.trans hnamed)
      cases hbound.symm.trans hunbound
  | expression hunnamed _ => cases hunnamed.symm.trans hnamed

/-- The sizes of a product with a value are resolved if none asks for an unbound variable. -/
theorem resolves_random (hs : s.fallback = .raise) {sizes : List Text} {total : Nat}
    (h : totalSize s store sizes = .ok total) (hbound : ¬ AsksUnbound store (.random sizes)) :
    Resolves store (.random sizes) := by
  refine .random fun arg harg => ?_
  obtain ⟨n, hn⟩ := size_ok_of_totalSize h arg harg
  rcases sizeResolves_or_unbound hs hn with hresolves | ⟨name, hnamed, hunbound⟩
  · exact hresolves
  · exact absurd (.size harg hnamed hunbound) hbound

/-- A product with a size that is zero is zero. -/
theorem totalSize_eq_zero {sizes : List Text} {arg : Text} {total : Nat} (hmem : arg ∈ sizes)
    (hzero : size s store arg = .ok 0) (h : totalSize s store sizes = .ok total) : total = 0 := by
  rw [totalSize] at h
  -- generalised over the product so far, which is zero once the size was met
  have hmet : 1 = 0 ∨ arg ∈ sizes := .inr hmem
  clear hmem
  generalize 1 = before at h hmet
  induction sizes generalizing before with
  | nil =>
      cases h
      exact hmet.resolve_right List.not_mem_nil
  | cons other sizes ih =>
      rw [List.foldlM_cons] at h
      obtain ⟨after, hstep, hrest⟩ := bind_ok_iff.mp h
      obtain ⟨n, hn, hafter⟩ := bind_ok_iff.mp hstep
      cases hafter
      refine ih _ hrest ?_
      rcases hmet with rfl | hmet
      · exact .inl (Nat.zero_mul _)
      · rcases List.mem_cons.mp hmet with rfl | hmet
        · obtain rfl : (0 : Int) = n := Except.ok.inj (hzero.symm.trans hn)
          exact .inl (Nat.mul_zero _)
        · exact .inr hmet

/-! ## Right-hand sides -/

/-- The shape of a right-hand side that calls for random numbers, and for nothing before them. -/
theorem ofText_random {expr : Text} {sizes : List Text} (hrange : RangeText.ofText? expr = none)
    (hwave : Text.hasCall ["sin", "cos"] expr = false)
    (htransform : Text.hasCall ["fft"] expr = false)
    (hcall : (Text.searchWord randomCall? expr).map argumentTexts = some sizes) :
    ofText expr = .random sizes := by
  obtain ⟨arguments, harguments, rfl⟩ := Option.map_eq_some_iff.mp hcall
  rw [ofText, hrange]
  show ofCall expr = _
  rw [ofCall, hwave, htransform, harguments]
  rfl

/-- Random numbers are counted before they are drawn, and the count is within the limit. -/
theorem value_random_ok {draw : Nat → Float} {used : Nat} {sizes : List Text} {drawn : Drawn}
    (h : (random sizes).value s draw used store = .ok drawn) :
    ∃ count, totalSize s store sizes = .ok count ∧
      drawn = ⟨.realVector (randomSamples draw used count), count⟩ := by
  obtain ⟨count, hcount, hdrawn⟩ := bind_ok_iff.mp h
  obtain ⟨total, htotal, hlimit⟩ := bind_ok_iff.mp hcount
  split at hlimit
  · cases hlimit
  · cases hlimit
    cases hdrawn
    exact ⟨count, htotal, rfl⟩

/-- A right-hand side with a value had everything it asked for, unbound variables apart. -/
theorem resolves_of_value (hs : s.fallback = .raise) {draw : Nat → Float} {used : Nat}
    {shape : Shape} {drawn : Drawn} (h : shape.value s draw used store = .ok drawn)
    (hbound : ¬ AsksUnbound store shape) : Resolves store shape := by
  cases shape with
  | range r =>
      obtain ⟨v, hv, -⟩ := map_ok_iff.mp h
      exact resolves_range hs hv
  | wave isSine =>
      obtain ⟨v, hv, -⟩ := map_ok_iff.mp h
      exact resolves_wave hs hv
  | transform argument =>
      obtain ⟨v, hv, -⟩ := map_ok_iff.mp h
      exact resolves_transform hs hv
  | random sizes =>
      obtain ⟨count, hcount, -⟩ := value_random_ok h
      exact resolves_random hs hcount hbound
  | literal x => exact .literal x
  | arithmetic expr =>
      obtain ⟨v, hv, -⟩ := map_ok_iff.mp h
      obtain ⟨x, hx, -⟩ := map_ok_iff.mp hv
      exact .arithmetic (evaluates_of_number hs hx)

/-- Where an unbound variable is asked for, there are no random numbers. -/
theorem value_of_asksUnbound {draw : Nat → Float} {used : Nat} {shape : Shape} {drawn : Drawn}
    (h : shape.value s draw used store = .ok drawn) (hasks : AsksUnbound store shape) :
    drawn = ⟨.realVector [], 0⟩ := by
  obtain ⟨hmem, hnamed, hunbound⟩ := hasks
  obtain ⟨count, hcount, rfl⟩ := value_random_ok h
  obtain rfl := totalSize_eq_zero hmem (size_of_unbound hnamed hunbound) hcount
  rfl

end Shape

open Shape

/-- Under the strict policy a right-hand side with a value had everything it asked for, unless a
size asks for the length of a variable that is not bound; then the value is a vector without
elements. -/
theorem evaluateExpression_resolves_iff (s : Settings) (draw : Nat → Float) (used : Nat)
    (store : Store) (expr : Text) (drawn : Drawn) (hs : s.fallback = .raise)
    (h : evaluateExpression s draw used store expr = .ok drawn) :
    (Resolves store (ofText expr) ↔ ¬ AsksUnbound store (ofText expr)) ∧
      (AsksUnbound store (ofText expr) → drawn = ⟨.realVector [], 0⟩) :=
  ⟨⟨not_asksUnbound_of_resolves, resolves_of_value hs h⟩, value_of_asksUnbound h⟩

/-- Random numbers as many as twice the elements of a bound vector. -/
theorem resolves_of_bound_length :
    let s : Settings := { Settings.standard with fallback := .raise }
    let store : Store := ⟨[("t", .realVector [0.0, 0.5, 1.0])]⟩
    let drawn : Drawn := ⟨.realVector (randomSamples (fun _ => 0.5) 0 6), 6⟩
    s.fallback = .raise ∧
      evaluateExpression s (fun _ => 0.5) 0 store "randn(2, length(t))" = .ok drawn ∧
      Resolves store (ofText "randn(2, length(t))") := by
  intro s store drawn
  have hshape : ofText "randn(2, length(t))" = .random ["2", "length(t)"] :=
    ofText_random (by decide +kernel) (by decide +kernel) (by decide +kernel) (by decide +kernel)
  have hcount : randomCount s store ["2", "length(t)"] = .ok 6 :=
    ok_of_toOption (by decide +kernel)
  have hvalue : evaluateExpression s (fun _ => 0.5) 0 store "randn(2, length(t))" = .ok drawn := by
    rw [evaluateExpression, hshape, value, hcount]
    rfl
  refine ⟨rfl, hvalue, ?_⟩
  refine (evaluateExpression_resolves_iff s _ 0 store _ drawn rfl hvalue).1.mpr fun hasks => ?_
  -- an unbound variable would have left the vector without elements
  have hnone := (evaluateExpression_resolves_iff s _ 0 store _ drawn rfl hvalue).2 hasks
  cases congrArg Drawn.draws hnone

/-- The length of a variable that is not bound is zero under the strict policy. -/
theorem value_of_unbound_length :
    let s : Settings := { Settings.standard with fallback := .raise }
    s.fallback = .raise ∧
      evaluateExpression s (fun _ => 0.5) 0 .empty "rand(1, length(y))" =
        .ok ⟨.realVector [], 0⟩ ∧
      ¬ Resolves .empty (ofText "rand(1, length(y))") := by
  intro s
  have hshape : ofText "rand(1, length(y))" = .random ["1", "length(y)"] :=
    ofText_random (by decide +kernel) (by decide +kernel) (by decide +kernel) (by decide +kernel)
  have hcount : randomCount s .empty ["1", "length(y)"] = .ok 0 :=
    ok_of_toOption (by decide +kernel)
  have hnamed : namedSize? "length(y)" = some "y".toList := by decide +kernel
  refine ⟨rfl, ?_, fun hresolves => ?_⟩
  · rw [evaluateExpression, hshape, value, hcount]
    rfl
  · rw [hshape] at hresolves
    have hmem : "length(y)".toList ∈ ["1".toList, "length(y)".toList] :=
      List.mem_cons_of_mem _ List.mem_cons_self
    exact not_asksUnbound_of_resolves hresolves (.size hmem hnamed rfl)

end SignalLab
