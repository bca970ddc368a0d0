import Mathlib.Data.Prod.Lex
import Mathlib.Order.Compare

/-!
# The order of doubles — a place on a line for every number

A double that is a number has a place: a class between minus infinity and infinity, and within the
finite numbers of one sign the exponent and then the mantissa, both negated below zero.  Places are
compared lexicographically, and a comparison of doubles holds exactly if both are numbers and their
places compare so (`le_iff_place`, `lt_iff_place`).  The laws of a linear order therefore hold of
doubles as far as they do not need reflexivity, which NaN lacks.
-/

namespace SignalLab.Double

open Float.Model

/-- Places in lexicographic order: class, exponent, mantissa. -/
abbrev Place := Int ×ₗ Int ×ₗ Int

/-- The place of an unpacked double; NaN has none. -/
def unpackedPlace? : UnpackedFloat → Option Place
  | .notANumber => none
  | .infinity .negative => some (toLex (-2, toLex (0, 0)))
  | .finite .negative m e _ => some (toLex (-1, toLex (-e, -m)))
  | .zero _ => some (toLex (0, toLex (0, 0)))
  | .finite .positive m e _ => some (toLex (1, toLex (e, m)))
  | .infinity .positive => some (toLex (2, toLex (0, 0)))

/-- The place of a double; NaN has none. -/
def place? (x : Float) : Option Place :=
  unpackedPlace? x.toModel.unpack

/-- Natural numbers compare as integers do. -/
theorem compare_natCast (m n : Nat) : compare (m : Int) n = compare m n := by
  rcases Nat.lt_trichotomy m n with h | h | h
  · rw [compare_lt_iff_lt.mpr h, compare_lt_iff_lt.mpr (Int.ofNat_lt.mpr h)]
  · rw [compare_eq_iff_eq.mpr h, compare_eq_iff_eq.mpr (congrArg Nat.cast h)]
  · rw [compare_gt_iff_gt.mpr h, compare_gt_iff_gt.mpr (Int.ofNat_lt.mpr h)]

/-- A change of sign turns the order of two integers around. -/
theorem compare_neg (a b : Int) : compare (-a) (-b) = (compare a b).swap := by
  rcases Int.lt_trichotomy a b with h | h | h
  · rw [compare_lt_iff_lt.mpr h, compare_gt_iff_gt.mpr (Int.neg_lt_neg h)]
    rfl
  · rw [compare_eq_iff_eq.mpr h, compare_eq_iff_eq.mpr (congrArg Neg.neg h)]
    rfl
  · rw [compare_gt_iff_gt.mpr h, compare_lt_iff_lt.mpr (Int.neg_lt_neg h)]
    rfl

/-- Unpacked doubles compare as their places do. -/
theorem compare_eq_place (a b : UnpackedFloat) :
    a.compare b = (unpackedPlace? a).bind fun p => (unpackedPlace? b).map fun q => compare p q := by
  have hpositive : ∀ (e e' : Int) (m m' : Nat), (compare e e').then (compare m m') =
      compare (toLex (e, (m : Int))) (toLex (e', (m' : Int))) := by
    intro e e' m m'
    rw [← compare_natCast]
    rfl
  have hnegative : ∀ (e e' : Int) (m m' : Nat), ((compare e e').then (compare m m')).swap =
      compare (toLex (-e, -(m : Int))) (toLex (-e', -(m' : Int))) := by
    intro e e' m m'
    rw [Ordering.swap_then, ← compare_natCast, ← compare_neg, ← compare_neg]
    rfl
  rcases a with (_ | _) | _ | _ | ⟨_ | _, m, e, hm⟩ <;>
  rcases b with (_ | _) | _ | _ | ⟨_ | _, m', e', hm'⟩ <;>
  try rfl
  · exact congrArg some (hnegative e e' m m')
  · exact congrArg some (hpositive e e' m m')

/-! ## Comparisons -/

/-- Two doubles are less or not as their places are; what is no number has no place. -/
theorem lt_iff_place {x y : Float} :
    x < y ↔ ∃ p q, place? x = some p ∧ place? y = some q ∧ p < q := by
  have hcompare : x < y ↔ (x.toModel.unpack.compare y.toModel.unpack == some .lt) = true :=
    decide_eq_true_iff
  rw [hcompare, compare_eq_place, beq_iff_eq, place?, place?]
  cases unpackedPlace? x.toModel.unpack with
  | none => simp
  | some p =>
      cases unpackedPlace? y.toModel.unpack with
      | none => simp
      | some q => simpa using compare_lt_iff_lt

theorem le_iff_place {x y : Float} :
    x ≤ y ↔ ∃ p q, place? x = some p ∧ place? y = some q ∧ p ≤ q := by
  have hcompare : x ≤ y ↔ (x.toModel.unpack.compare y.toModel.unpack).any (·.isLE) = true :=
    decide_eq_true_iff
  rw [hcompare, compare_eq_place, place?, place?]
  cases unpackedPlace? x.toModel.unpack with
  | none => simp
  | some p =>
      cases unpackedPlace? y.toModel.unpack with
      | none => simp
      | some q => simpa [← Ordering.ne_gt_iff_isLE] using compare_le_iff_le

/-- Doubles are equal exactly if they have the same place, as the two zeros do. -/
theorem beq_iff_place {x y : Float} :
    (x == y) = true ↔ ∃ p, place? x = some p ∧ place? y = some p := by
  have hcompare : (x == y) = true ↔
      (x.toModel.unpack.compare y.toModel.unpack == some .eq) = true := Iff.rfl
  rw [hcompare, compare_eq_place, beq_iff_eq, place?, place?]
  cases unpackedPlace? x.toModel.unpack with
  | none => simp
  | some p =>
      cases unpackedPlace? y.toModel.unpack with
      | none => simp
      | some q => simpa using compare_eq_iff_eq.trans eq_comm

/-- The two orders chain, since a comparison holds of numbers only. -/
theorem lt_of_le_of_lt {x y z : Float} (hxy : x ≤ y) (hyz : y < z) : x < z := by
  obtain ⟨p, q, hx, hy, hpq⟩ := le_iff_place.mp hxy
  obtain ⟨q', r, hy', hz, hqr⟩ := lt_iff_place.mp hyz
  obtain rfl : q = q' := Option.some.inj (hy.symm.trans hy')
  exact lt_iff_place.mpr ⟨p, r, hx, hz, hpq.trans_lt hqr⟩

end SignalLab.Double
