import SignalLab.Proofs.Expression.Operands
import SignalLab.Proofs.Number.HalfAdded

/-!
# Rounding functions — the four of them at integers

An argument denotes an integer as its decimal literal, or as a name that is bound to a double that
stands for it (`Denotes`).  Up to `2 ^ 53` the functions that round down, up and toward zero give the
integer back.  The one that rounds halves away from zero adds one half first: it moves the odd
integers beyond `2 ^ 52`, and no others (`rounding_of_integer`).
-/

namespace SignalLab.Expression

open Double Quantity Text

/-- The text denotes an integer: it is its literal, or the name of a double that stands for it. -/
inductive Denotes (env : Environment) (n : ℤ) : Text → Prop
  | literal : Denotes env n (Text.ofInt n)
  | scalar {word id : Text} {x : Float} (hword : wordToken? word = some (.name id))
      (hbound : Keyed.find? id env = some x) (hx : value? x = some (n : ℚ)) : Denotes env n word

section Integers

variable {env : Environment} {n : ℤ} {arg : Text}

/-- What denotes an integer is an operand that stands for it. -/
theorem Denotes.exists_operand (h : Denotes env n arg) (hn : n.natAbs ≤ 2 ^ 53) :
    ∃ (o : Operand) (q : Quantity), o.text = arg ∧ o.tree.eval env = .ok q ∧ q.IsInteger n := by
  cases h with
  | literal =>
      have hdigits : (Text.ofNat n.natAbs).length ≤ maxIntegerDigits :=
        length_ofNat_le (Nat.lt_of_le_of_lt hn (Nat.pow_lt_pow_right (by decide) (by decide)))
      exact ⟨.integer n hdigits, _, Operand.text_integer hdigits, Operand.eval_integer hdigits env,
        .integer⟩
  | @scalar _ id x hword hbound hx =>
      refine ⟨.name arg id hword, .real x, rfl, ?_, .real hx⟩
      show Tree.eval env (.name id) = _
      rw [Tree.eval, nameValue, hbound]

/-- A call has the number that its function gives for an integer, in either form. -/
theorem Denotes.exists_evalText_call (h : Denotes env n arg) (hn : n.natAbs ≤ 2 ^ 53)
    {f : Identifier} {g : Function} (hf : function? f.text = some g) {v : ℚ}
    (hvalue : ∀ q : Quantity, q.IsInteger n →
      ∃ r y, g.apply [q] = .ok r ∧ r.toReal = .ok y ∧ value? y = some v) :
    ∃ y, evalText env (f.text ++ '(' :: (arg ++ [')'])) = .ok y ∧ value? y = some v := by
  obtain ⟨o, q, rfl, heval, hq⟩ := h.exists_operand hn
  obtain ⟨r, y, hr, hreal, hy⟩ := hvalue q hq
  exact ⟨y, Operand.evalText_call hf 0 (.cons heval .nil) hr hreal, hy⟩

/-- Rounding down, up and toward zero gives an integer as an integer. -/
theorem apply_of_isInteger {q : Quantity} (hq : q.IsInteger n) :
    Function.floor.apply [q] = .ok (.integer n) ∧ Function.ceil.apply [q] = .ok (.integer n) ∧
      Function.fix.apply [q] = .ok (.integer n) := by
  refine ⟨?_, ?_, ?_⟩
  · rw [Function.apply, hq.roundTo]
    rfl
  · rw [Function.apply, hq.roundTo]
    rfl
  · rw [Function.apply, hq.truncate]
    rfl

/-- Up to `2 ^ 53` the functions that round down, up and toward zero give an integer back.  Rounding
halves away from zero gives it back exactly if it is even or at most `2 ^ 52` in magnitude; any other
is moved away from zero by one. -/
theorem rounding_of_integer (hn : n.natAbs ≤ 2 ^ 53) (h : Denotes env n arg) :
    (∀ word ∈ ["floor", "ceil", "fix"], ∃ y,
      evalText env (word.toList ++ '(' :: (arg ++ [')'])) = .ok y ∧ value? y = some (n : ℚ)) ∧
    ∃ y, evalText env ("round(" ++ arg ++ [')']) = .ok y ∧ value? y = some (halfAdded n : ℚ) ∧
      (value? y = some (n : ℚ) ↔ n.natAbs ≤ 2 ^ 52 ∨ Even n) := by
  constructor
  · obtain ⟨y, hofInt, hy⟩ := exists_ofInt_eq hn
    intro word hword
    simp only [List.mem_cons, List.not_mem_nil, or_false] at hword
    rcases hword with rfl | rfl | rfl
    · exact h.exists_evalText_call hn (f := ⟨'f', ['l', 'o', 'o', 'r'], rfl, rfl, rfl⟩) rfl
        fun q hq => ⟨_, y, (apply_of_isInteger hq).1, hofInt, hy⟩
    · exact h.exists_evalText_call hn (f := ⟨'c', ['e', 'i', 'l'], rfl, rfl, rfl⟩) rfl
        fun q hq => ⟨_, y, (apply_of_isInteger hq).2.1, hofInt, hy⟩
    · exact h.exists_evalText_call hn (f := ⟨'f', ['i', 'x'], rfl, rfl, rfl⟩) rfl
        fun q hq => ⟨_, y, (apply_of_isInteger hq).2.2, hofInt, hy⟩
  -- this function adds a half first, and the sum may have to be rounded itself
  · have hround : ∀ q : Quantity, q.IsInteger n → ∃ r y, Function.round.apply [q] = .ok r ∧
        r.toReal = .ok y ∧ value? y = some (halfAdded n : ℚ) := by
      intro q hq
      obtain ⟨y, hvalue, hy⟩ := hq.exists_roundHalfAway hn
      refine ⟨.real y, y, ?_, rfl, hy⟩
      rw [Function.apply, hvalue]
      rfl
    obtain ⟨y, heval, hy⟩ := h.exists_evalText_call hn
      (f := ⟨'r', ['o', 'u', 'n', 'd'], rfl, rfl, rfl⟩) rfl hround
    refine ⟨y, ?_, hy, ?_⟩
    · rw [List.append_assoc]
      exact heval
    · rw [hy, Option.some_inj, Int.cast_inj, halfAdded_eq_self_iff]

end Integers

/-- A negative literal, and an even integer beyond `2 ^ 52` that is bound to a name. -/
theorem rounding_of_literal_and_name :
    let env : Environment := [("n", 4503599627370498.0)]
    ((-7 : ℤ).natAbs ≤ 2 ^ 53 ∧ Denotes env (-7) "-7" ∧
      ∃ y, evalText env "round(-7)" = .ok y ∧ value? y = some ((-7 : ℤ) : ℚ)) ∧
    (4503599627370498 : ℤ).natAbs ≤ 2 ^ 53 ∧ Denotes env 4503599627370498 "n" ∧
      ∃ y, evalText env "round(n)" = .ok y ∧ value? y = some ((4503599627370498 : ℤ) : ℚ) := by
  intro env
  have hsmall : (-7 : ℤ).natAbs ≤ 2 ^ 53 := by decide
  have hlarge : (4503599627370498 : ℤ).natAbs ≤ 2 ^ 53 := by decide
  have hliteral : Denotes env (-7) "-7" := .literal
  have hparts : parts 4503599627370498.0 = .finite false 4503599627370498 0 := by decide
  have hvalue : value? 4503599627370498.0 = some ((4503599627370498 : ℤ) : ℚ) := by
    rw [value?, hparts]
    norm_num [signed]
  have hword : wordToken? "n" = some (.name "n") := rfl
  have hscalar : Denotes env 4503599627370498 "n" := .scalar hword rfl hvalue
  obtain ⟨-, y, hy, -, hyiff⟩ := rounding_of_integer hsmall hliteral
  obtain ⟨-, z, hz, -, hziff⟩ := rounding_of_integer hlarge hscalar
  exact ⟨⟨hsmall, hliteral, y, hy, hyiff.mpr (.inl (by decide))⟩, hlarge, hscalar, z, hz,
    hziff.mpr (.inr (by decide))⟩

/-- The least odd integer beyond `2 ^ 52` is rounded to the next one. -/
theorem round_of_odd_integer :
    (4503599627370497 : ℤ).natAbs ≤ 2 ^ 53 ∧
      (evalText [] "round(4503599627370497)").toOption = some 4503599627370498.0 ∧
      (4503599627370498.0 == (4503599627370497.0 : Float)) = false :=
  ⟨by decide, by decide +kernel, by decide +kernel⟩

end SignalLab.Expression
