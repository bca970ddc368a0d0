import SignalLab.Program.Assignment
import SignalLab.Proofs.Fallible

/-!
# Ranges — their elements, and what the limit on vectors does to them

The elements of a range are computed in a room, the number of elements the limit still admits.  They
never fill more than the room, and those that fit into a room are the same in a larger one, so the
limit bounds a range and otherwise leaves it as it is.  Without a room they are said by the terms of
the range, which go on for ever: they are the terms in front of the first one that is not at most
`stop`, if there is one (`IsRangeEnd`).  A step that is lost in rounding, an infinite end or a NaN
needs no case of its own.

`Shape.rangeValue_eq` takes the evaluation of a range apart into its three parts and its elements,
and `evaluateExpression_range` says what a right-hand side that is a range comes to.
-/

namespace SignalLab

/-! ## Elements -/

/-- A range fills its room at most. -/
theorem length_rangeFrom_le {step stop current : Float} {room : Nat} {found elements : List Float}
    (h : rangeFrom step stop current room found = some elements) :
    elements.length ≤ room + found.length := by
  induction room generalizing current found with
  | zero =>
      unfold rangeFrom at h
      split at h
      · cases h
      · cases h
        rw [List.length_reverse]
        omega
  | succ room ih =>
      unfold rangeFrom at h
      split at h
      · have hlength := ih h
        rw [List.length_cons] at hlength
        omega
      · cases h
        rw [List.length_reverse]
        omega

theorem length_rangeElements_le {limit : Int} (hlimit : 0 ≤ limit) {start step stop : Float}
    {elements : List Float} (h : rangeElements limit start step stop = .ok elements) :
    (elements.length : Int) ≤ limit := by
  rw [rangeElements] at h
  split at h
  · split at h
    · rename_i found hfound
      cases h
      have hlength := length_rangeFrom_le hfound
      rw [List.length_nil] at hlength
      omega
    · cases h
  · cases h
    exact hlimit

/-- A range that fits into a room fits into a larger one. -/
theorem rangeFrom_mono {step stop current : Float} {room room' : Nat} {found elements : List Float}
    (hle : room ≤ room') (h : rangeFrom step stop current room found = some elements) :
    rangeFrom step stop current room' found = some elements := by
  induction room generalizing room' current found with
  | zero =>
      unfold rangeFrom at h ⊢
      split at h
      · cases h
      · rename_i hend
        rw [if_neg hend]
        exact h
  | succ room ih =>
      -- a larger room is not empty either
      obtain ⟨room', rfl⟩ : ∃ k, room' = k + 1 := ⟨room' - 1, by omega⟩
      unfold rangeFrom at h ⊢
      split at h
      · rename_i hmore
        rw [if_pos hmore]
        exact ih (by omega) h
      · rename_i hend
        rw [if_neg hend]
        exact h

theorem rangeElements_mono {limit limit' : Int} {start step stop : Float} {elements : List Float}
    (hle : limit ≤ limit') (h : rangeElements limit start step stop = .ok elements) :
    rangeElements limit' start step stop = .ok elements := by
  rw [rangeElements] at h ⊢
  split at h
  · rename_i hstep
    rw [if_pos hstep]
    split at h
    · rename_i found hfound
      rw [rangeFrom_mono (Int.toNat_le_toNat hle) hfound]
      exact h
    · cases h
  · rename_i hstep
    rw [if_neg hstep]
    exact h

/-! ## Terms -/

/-- The start of a range, and its further terms by repeated addition of the step. -/
def rangeTerm (start step : Float) : Nat → Float
  | 0 => start
  | i + 1 => rangeTerm start step i + step

/-- The least index of a term that is not at most `stop`. -/
structure IsRangeEnd (start step stop : Float) (n : Nat) : Prop where
  beyond : ¬ rangeTerm start step n ≤ stop
  within : ∀ i < n, rangeTerm start step i ≤ stop

section Terms

variable {start step stop : Float}

theorem rangeTerm_add_step (start step : Float) (i : Nat) :
    rangeTerm (start + step) step i = rangeTerm start step (i + 1) := by
  induction i with
  | zero => rfl
  | succ i ih => rw [rangeTerm, ih, ← rangeTerm]

/-- A range that ends within its room has the terms in front of its end. -/
theorem rangeFrom_of_isRangeEnd {n room : Nat} (h : IsRangeEnd start step stop n)
    (hroom : n ≤ room) (found : List Float) :
    rangeFrom step stop start room found =
      some (found.reverse ++ (List.range n).map (rangeTerm start step)) := by
  induction n generalizing start room found with
  | zero =>
      have hend : ¬ start ≤ stop := h.beyond
      unfold rangeFrom
      rw [if_neg hend, List.range_zero, List.map_nil, List.append_nil]
  | succ n ih =>
      obtain ⟨room, rfl⟩ : ∃ k, room = k + 1 := ⟨room - 1, by omega⟩
      have hmore : start ≤ stop := h.within 0 (Nat.succ_pos n)
      have hrest : IsRangeEnd (start + step) step stop n := by
        refine ⟨?_, fun i hi => ?_⟩
        · rw [rangeTerm_add_step]
          exact h.beyond
        · rw [rangeTerm_add_step]
          exact h.within (i + 1) (Nat.succ_lt_succ hi)
      have hterms : rangeTerm (start + step) step = rangeTerm start step ∘ Nat.succ :=
        funext fun i => rangeTerm_add_step start step i
      unfold rangeFrom
      rw [if_pos hmore]
      refine (ih hrest (Nat.le_of_succ_le_succ hroom) (start :: found)).trans ?_
      rw [List.range_succ_eq_map, List.map_cons, List.map_map, ← hterms, List.reverse_cons,
        List.append_assoc]
      rfl

/-- A range whose terms go on beyond its room does not fit. -/
theorem rangeFrom_of_within {room : Nat} (h : ∀ i ≤ room, rangeTerm start step i ≤ stop)
    (found : List Float) : rangeFrom step stop start room found = none := by
  induction room generalizing start found with
  | zero =>
      have hmore : start ≤ stop := h 0 (Nat.le_refl 0)
      unfold rangeFrom
      rw [if_pos hmore]
  | succ room ih =>
      have hmore : start ≤ stop := h 0 (Nat.zero_le _)
      unfold rangeFrom
      rw [if_pos hmore]
      refine ih (fun i hi => ?_) (start :: found)
      rw [rangeTerm_add_step]
      exact h (i + 1) (Nat.succ_le_succ hi)

/-- All terms in the room of a range that does not end there are at most `stop`. -/
theorem rangeTerm_le_of_forall_lt {room : Nat} (h : ∀ n, IsRangeEnd start step stop n → room < n)
    {i : Nat} (hi : i ≤ room) : rangeTerm start step i ≤ stop := by
  induction i using Nat.strongRecOn with
  | ind i ih =>
      by_cases hle : rangeTerm start step i ≤ stop
      · exact hle
      · -- the first term beyond `stop` would be the end of the range
        have hlt : room < i := h i ⟨hle, fun j hj => ih j hj (by omega)⟩
        omega

/-- Without a positive step a range is empty. -/
theorem rangeElements_of_not_pos (hstep : ¬ 0.0 < step) (limit : Int) (start stop : Float) :
    rangeElements limit start step stop = .ok [] := by
  rw [rangeElements, if_neg hstep]

/-- A range that ends within the limit has the terms in front of its end. -/
theorem rangeElements_of_isRangeEnd (hstep : 0.0 < step) {n : Nat}
    (h : IsRangeEnd start step stop n) {limit : Int} (hn : (n : Int) ≤ limit) :
    rangeElements limit start step stop = .ok ((List.range n).map (rangeTerm start step)) := by
  have hroom : n ≤ limit.toNat := by omega
  rw [rangeElements, if_pos hstep, rangeFrom_of_isRangeEnd h hroom]
  rfl

/-- A range that does not end within the limit breaches it. -/
theorem rangeElements_of_forall_lt (hstep : 0.0 < step) {limit : Int} (hlimit : 0 ≤ limit)
    (h : ∀ n, IsRangeEnd start step stop n → limit < n) :
    rangeElements limit start step stop = .error (.rangeLength limit) := by
  have hroom : ∀ n, IsRangeEnd start step stop n → limit.toNat < n := by
    intro n hn
    have hlt := h n hn
    omega
  rw [rangeElements, if_pos hstep, rangeFrom_of_within fun i hi => rangeTerm_le_of_forall_lt hroom hi]

/-- The elements of a range are at most `stop`, and the term behind them is not. -/
theorem le_of_rangeElements {limit : Int} (hlimit : 0 ≤ limit) {elements : List Float}
    (h : rangeElements limit start step stop = .ok elements) :
    (∀ x ∈ elements, x ≤ stop) ∧ (0.0 < step → ¬ rangeTerm start step elements.length ≤ stop) := by
  by_cases hstep : 0.0 < step
  · by_cases hend : ∃ n, IsRangeEnd start step stop n ∧ (n : Int) ≤ limit
    · obtain ⟨n, hn, hle⟩ := hend
      rw [rangeElements_of_isRangeEnd hstep hn hle] at h
      cases h
      constructor
      · intro x hx
        obtain ⟨i, hi, rfl⟩ := List.mem_map.mp hx
        exact hn.within i (List.mem_range.mp hi)
      · intro _
        rw [List.length_map, List.length_range]
        exact hn.beyond
    · have hlonger : ∀ n, IsRangeEnd start step stop n → limit < n :=
        fun n hn => Int.not_le.mp fun hle => hend ⟨n, hn, hle⟩
      rw [rangeElements_of_forall_lt hstep hlimit hlonger] at h
      cases h
  · rw [rangeElements_of_not_pos hstep] at h
    cases h
    exact ⟨List.forall_mem_nil _, fun hpos => absurd hpos hstep⟩

end Terms

/-! ## Values -/

namespace Shape

/-- The step of a range, one where none is written. -/
def stepValue (s : Settings) (store : Store) (r : RangeText) : Except Failure Float :=
  match r.step with
  | some step => number s store step
  | none => .ok 1.0

/-- A range has its parts evaluated in order, and then its elements. -/
theorem rangeValue_eq (s : Settings) (store : Store) (r : RangeText) :
    rangeValue s store r =
      number s store r.start >>= fun start =>
        stepValue s store r >>= fun step =>
          number s store r.stop >>= fun stop =>
            ((rangeElements s.maxVector start step stop).map .realVector).mapError .breach := by
  rw [rangeValue, stepValue]
  cases r.step <;> rfl

/-- The value of a range whose parts have values. -/
theorem value_range {s : Settings} {store : Store} {r : RangeText} {start step stop : Float}
    (hstart : number s store r.start = .ok start) (hstep : stepValue s store r = .ok step)
    (hstop : number s store r.stop = .ok stop) (draw : Nat → Float) (used : Nat) :
    (range r).value s draw used store =
      ((rangeElements s.maxVector start step stop).map fun elements =>
        ⟨.realVector elements, 0⟩).mapError .breach := by
  rw [value, rangeValue_eq, hstart, hstep, hstop]
  show undrawn (((rangeElements s.maxVector start step stop).map _).mapError _) = _
  cases rangeElements s.maxVector start step stop <;> rfl

end Shape

/-- A right-hand side that is a range, evaluated where its parts have the values `start`, `step` and
`stop`: without a positive step it is empty, a range that ends within the limit on vectors has the
terms in front of its end, and one that does not end there breaches the limit.  All elements are at
most `stop`, and no further term is. -/
theorem evaluateExpression_range {s : Settings} (hlimit : 0 ≤ s.maxVector) {store : Store}
    {expr : Text} {r : RangeText} (hr : RangeText.ofText? expr = some r)
    {start step stop : Float} (hstart : Shape.number s store r.start = .ok start)
    (hstep : Shape.stepValue s store r = .ok step) (hstop : Shape.number s store r.stop = .ok stop)
    (draw : Nat → Float) (used : Nat) :
    let value := evaluateExpression s draw used store expr
    let vector (elements : List Float) : Except Failure Shape.Drawn :=
      .ok ⟨.realVector elements, 0⟩
    (r.step = none → step = 1.0) ∧
    (¬ 0.0 < step → value = vector []) ∧
    (0.0 < step →
      (∀ n, IsRangeEnd start step stop n → (n : Int) ≤ s.maxVector →
        value = vector ((List.range n).map (rangeTerm start step))) ∧
      ((∀ n, IsRangeEnd start step stop n → s.maxVector < n) →
        value = .error (.breach (.rangeLength s.maxVector)) ∧
        (Breach.rangeLength s.maxVector).code = "VECTOR_LIMIT".toList)) ∧
    ∀ elements, value = vector elements →
      (∀ x ∈ elements, x ≤ stop) ∧
      (0.0 < step → ¬ rangeTerm start step elements.length ≤ stop) := by
  intro value vector
  -- all parts are facts about the elements that are made of the three numbers
  have hvalue : value = ((rangeElements s.maxVector start step stop).map fun elements =>
      ⟨.realVector elements, 0⟩).mapError .breach := by
    show (Shape.ofText expr).value s draw used store = _
    rw [Shape.ofText, hr]
    exact Shape.value_range hstart hstep hstop draw used
  refine ⟨?_, ?_, ?_, ?_⟩
  · intro hnone
    rw [Shape.stepValue, hnone] at hstep
    exact (Except.ok.inj hstep).symm
  · intro hpos
    rw [hvalue, rangeElements_of_not_pos hpos]
    rfl
  · intro hpos
    constructor
    · intro n hn hle
      rw [hvalue, rangeElements_of_isRangeEnd hpos hn hle]
      rfl
    · intro hlonger
      refine ⟨?_, rfl⟩
      rw [hvalue, rangeElements_of_forall_lt hpos hlimit hlonger]
      rfl
  · intro elements h
    refine le_of_rangeElements hlimit ?_
    rw [hvalue] at h
    obtain ⟨found, hfound, heq⟩ := Fallible.map_ok_iff.mp (Fallible.mapError_ok_iff.mp h)
    cases heq
    exact hfound

/-- Three tenths added up are more than `0.3`, so a range to it ends at the very limit; one without
an end breaches the limit. -/
theorem evaluateExpression_range_of_tenths :
    let s : Settings := { Settings.standard with maxVector := 3 }
    let value := evaluateExpression s (fun _ => 0.0) 0 .empty
    value "0:0.1:0.3" = .ok ⟨.realVector [0.0, 0.1, 0.2], 0⟩ ∧
    value "0:inf" = .error (.breach (.rangeLength 3)) := by
  intro s value
  have hlimit : 0 ≤ s.maxVector := by decide
  have hnumber : ∀ (text : Text) (x : Float), (Shape.number s .empty text).toOption = some x →
      Shape.number s .empty text = .ok x := by
    intro text x h
    cases hx : Shape.number s .empty text with
    | error e =>
        rw [hx] at h
        cases h
    | ok y =>
        rw [hx] at h
        cases h
        rfl
  have hzero := hnumber "0" 0.0 (by decide +kernel)
  constructor
  · have hr : RangeText.ofText? "0:0.1:0.3" = some ⟨"0", some "0.1", "0.3"⟩ := by decide +kernel
    have hstep := hnumber "0.1" 0.1 (by decide +kernel)
    have hstop := hnumber "0.3" 0.3 (by decide +kernel)
    have hend : IsRangeEnd 0.0 0.1 0.3 3 := ⟨by decide +kernel, by decide +kernel⟩
    have hterms : (List.range 3).map (rangeTerm 0.0 0.1) = [0.0, 0.1, 0.2] := by decide +kernel
    rw [← hterms]
    exact ((evaluateExpression_range hlimit hr hzero hstep hstop (fun _ => 0.0) 0).2.2.1
      (by decide +kernel)).1 3 hend (by decide)
  · have hr : RangeText.ofText? "0:inf" = some ⟨"0", none, "inf"⟩ := by decide +kernel
    have hstop := hnumber "inf" (1.0 / 0.0) (by decide +kernel)
    have hwithin : ∀ i < 4, rangeTerm 0.0 1.0 i ≤ 1.0 / 0.0 := by decide +kernel
    refine (((evaluateExpression_range hlimit hr hzero rfl hstop (fun _ => 0.0) 0).2.2.1
      (by decide +kernel)).2 fun n hn => ?_).1
    by_cases hlt : n < 4
    · exact absurd (hwithin n hlt) hn.beyond
    · show (3 : Int) < n
      omega

end SignalLab
