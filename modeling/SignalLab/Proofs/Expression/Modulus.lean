import SignalLab.Proofs.Expression.Operands
import SignalLab.Proofs.Number.Residues

/-!
# The modulus — what `mod` gives for two literals

Two integers that are written as literals stay integers, and so does all that the modulus does with
them except for their quotient.  Its value is therefore the residue exactly if the rounded quotient
has the floor of the exact one, and it is for every dividend up to `2 ^ 53`, and beyond as long as the
quotient is not too near to the next integer (`modulus_of_integers`).
-/

namespace SignalLab.Expression

open Double Text

/-- The modulus of two integers, with as many blanks as given behind the comma. -/
def modulusText (a b : ℤ) (gap : Nat) : Text :=
  "mod(" ++ (Text.ofInt a ++ ',' :: (Formula.blanks gap ++ (Text.ofInt b ++ [')'])))

section Integers

variable {a b : ℤ}

theorem length_ofNat_of_abs_le {k : ℕ} (hk : k < maxIntegerDigits)
    (h : |(a : ℚ)| ≤ 2 ^ (k : ℤ)) : (Text.ofNat a.natAbs).length ≤ maxIntegerDigits := by
  have hsize : a.natAbs ≤ 2 ^ k := by
    rw [← Int.cast_abs, Int.abs_eq_natAbs] at h
    exact_mod_cast h
  exact length_ofNat_le (Nat.lt_of_le_of_lt hsize (Nat.pow_lt_pow_right (by decide) hk))

/-- A dividend of a quotient in the range of doubles has few digits. -/
theorem length_ofNat_of_quotient (hb : 1 ≤ b) (hb' : b ≤ 2 ^ 53)
    (h : |(a / b : ℚ)| < overflow) : (Text.ofNat a.natAbs).length ≤ maxIntegerDigits := by
  have hpos : (0 : ℚ) < b := by exact_mod_cast hb
  have hdivisor : (b : ℚ) ≤ 2 ^ (53 : ℤ) := by exact_mod_cast hb'
  have hsize : |(a / b : ℚ)| ≤ 2 ^ (1024 : ℤ) :=
    h.le.trans (sub_le_self _ (zpow_nonneg zero_le_two _))
  refine length_ofNat_of_abs_le (k := 1024 + 53) (by decide) ?_
  calc |(a : ℚ)| = |(a / b : ℚ)| * b := by
        rw [abs_div, abs_of_pos hpos, div_mul_cancel₀ _ hpos.ne']
    _ ≤ 2 ^ (1024 : ℤ) * 2 ^ (53 : ℤ) := mul_le_mul hsize hdivisor hpos.le (by positivity)
    _ = 2 ^ ((1024 + 53 : ℕ) : ℤ) := (zpow_add₀ two_ne_zero _ _).symm

/-- The modulus of two literals stands for what is left of the dividend when the divisor is taken off
as often as the rounded quotient says.  That is the residue exactly if rounding the quotient does not
change its floor; it does not if the quotient is at least its `2 ^ 53`rd part below the next integer. -/
theorem modulus_of_integers (env : Environment) (hb : 1 ≤ b) (hb' : b ≤ 2 ^ 53)
    (hrange : |(a / b : ℚ)| < overflow) (gap : Nat) :
    ∃ v y w, IsNearest (a / b) v ∧ evalText env (modulusText a b gap) = .ok y ∧
      value? y = some w ∧ IsNearest (a - ⌊v⌋ * b : ℤ) w ∧
      (w = (a % b : ℤ) ↔ ⌊v⌋ = a / b) ∧
      (|a| ≤ 2 ^ 53 * (b - a % b) → w = (a % b : ℤ)) := by
  obtain ⟨v, y, w, hquotient, hmodulo, hofInt, hy, hnearest⟩ :=
    Quantity.exists_modulo hb hb' hrange
  have hiff := eq_emod_iff hb hb' hnearest
  refine ⟨v, y, w, hquotient, ?_, hy, hnearest, hiff,
    fun ha => hiff.mpr (floor_eq_ediv hb hb' hquotient ha)⟩
  -- a literal is read only up to a number of digits, and both have fewer
  have hdigits : (Text.ofNat a.natAbs).length ≤ maxIntegerDigits :=
    length_ofNat_of_quotient hb hb' hrange
  have hdigits' : (Text.ofNat b.natAbs).length ≤ maxIntegerDigits :=
    length_ofNat_le (Nat.lt_of_le_of_lt (by omega : b.natAbs ≤ 2 ^ 53)
      (Nat.pow_lt_pow_right (by decide) (by decide)))
  have hvalue : Function.mod.apply [.integer a, .integer b] = .ok (.integer (a - ⌊v⌋ * b)) := by
    rw [Function.apply, hmodulo]
    rfl
  have hcall := Operand.evalText_call (f := ⟨'m', ['o', 'd'], rfl, rfl, rfl⟩) rfl gap
    (.cons (Operand.eval_integer hdigits env) (.cons (Operand.eval_integer hdigits' env) .nil))
    hvalue hofInt
  have htext : modulusText a b gap = "mod".toList ++ '(' ::
      (Operand.argumentsText gap [.integer a hdigits, .integer b hdigits'] ++ [')']) := by
    rw [Operand.argumentsText, Operand.argumentsText, Operand.text_integer, Operand.text_integer]
    · simp [modulusText]
    · simp
  rw [htext]
  exact hcall

end Integers

/-- A negative dividend, and one beyond `2 ^ 53`. -/
theorem modulus_of_negative_and_large :
    ((1 : ℤ) ≤ 3 ∧ (3 : ℤ) ≤ 2 ^ 53) ∧
      (|((-7 : ℤ) / (3 : ℤ) : ℚ)| < overflow ∧
        ∃ y, evalText [] "mod(-7, 3)" = .ok y ∧ value? y = some 2) ∧
      |((18014398509481984 : ℤ) / (3 : ℤ) : ℚ)| < overflow ∧
        ∃ y, evalText [] "mod(18014398509481984,3)" = .ok y ∧ value? y = some 1 := by
  have hpositive : (1 : ℤ) ≤ 3 := by decide
  have hdivisor : (3 : ℤ) ≤ 2 ^ 53 := by decide
  have hnegative : |((-7 : ℤ) / (3 : ℤ) : ℚ)| < overflow :=
    lt_overflow_of_le (by norm_num [abs_div])
  have hlarge : |((18014398509481984 : ℤ) / (3 : ℤ) : ℚ)| < overflow :=
    lt_overflow_of_le (by norm_num [abs_div])
  obtain ⟨-, y, w, -, hy, hw, -, -, hresidue⟩ :=
    modulus_of_integers [] hpositive hdivisor hnegative 1
  obtain ⟨-, z, u, -, hz, hu, -, -, hresidue'⟩ :=
    modulus_of_integers [] hpositive hdivisor hlarge 0
  rw [hresidue (by decide)] at hw
  rw [hresidue' (by decide)] at hu
  exact ⟨⟨hpositive, hdivisor⟩, ⟨hnegative, y, hy, hw⟩, hlarge, z, hz, hu⟩

/-- The quotient lies a third below an integer, and is rounded to it. -/
theorem modulus_of_crossing_quotient :
    (27021597764222975 : ℤ) % 3 = 2 ∧
      (evalText [] "mod(27021597764222975, 3)").toOption = some (-1.0) :=
  ⟨by decide, by decide +kernel⟩

end SignalLab.Expression
