import SignalLab.Proofs.Number.Integers
import SignalLab.Proofs.Number.Layouts
import SignalLab.Proofs.Number.Shortest

/-!
# Plain texts — doubles written as their shortest decimals

A double is written as the shortest decimal that reads back: with at least one place behind a point while
the exponent of its first digit is at least -4 and below 16, and with an exponent otherwise
(`IsPlain`).  Its sign stands in front, also that of a zero and of infinity (`IsText`).  A double has one
text (`isText_iff`).
-/

namespace SignalLab.Double

open Text Decimal

/-! ## Texts -/

/-- The exponent of the first digit of a decimal with so many digits. -/
def firstExponent (d : Decimal) (count : ℕ) : ℤ :=
  d.exponent + count - 1

/-- The places of a decimal that is written without an exponent: there is one at least. -/
def plainPlaces (d : Decimal) : ℕ :=
  max 1 (-d.exponent).toNat

/-- The plain text of a number that is not negative. -/
inductive IsPlain (v : ℚ) : Text → Prop
  | zero (zero : v = 0) : IsPlain v "0.0"
  | places {count n : ℕ} {d : Decimal} {s : Text} (positive : 0 < v) (shortest : IsShortest v count d)
      (inside : -4 ≤ firstExponent d count ∧ firstExponent d count < 16)
      (units : n = d.value * 10 ^ plainPlaces d) (layout : WithPlaces true true (plainPlaces d) n s) :
      IsPlain v s
  | exponent {count : ℕ} {d : Decimal} {s : Text} (positive : 0 < v) (shortest : IsShortest v count d)
      (outside : firstExponent d count < -4 ∨ 16 ≤ firstExponent d count)
      (layout : WithExponent true false count d.coefficient (firstExponent d count) s) : IsPlain v s

/-- The text of a double. -/
inductive IsText (x : Float) : Text → Prop
  | finite {v : ℚ} {s : Text} (value : value? x = some v) (plain : IsPlain |v| s) :
      IsText x ((if isNegative x then ['-'] else []) ++ s)
  | infinite {negative : Bool} (infinite : parts x = .infinite negative) :
      IsText x ((if negative then ['-'] else []) ++ "inf".toList)
  | nan (nan : parts x = .nan) : IsText x "nan"

section Texts

variable {m : ℕ} {q : ℤ}

/-! ## There is one text at most -/

/-- A double has one plain text at most. -/
theorem IsPlain.eq (hnormal : IsNormal m q) {s t : Text} (hs : IsPlain (m * 2 ^ q) s)
    (ht : IsPlain (m * 2 ^ q) t) : s = t := by
  have hm : 0 < (m : ℚ) * 2 ^ q → 0 < m := by
    intro hpos
    refine Nat.pos_of_ne_zero ?_
    rintro rfl
    rw [Nat.cast_zero, zero_mul] at hpos
    exact lt_irrefl _ hpos
  -- the three layouts exclude each other, and a double has one shortest decimal
  cases hs with
  | zero hzero =>
      cases ht with
      | zero => rfl
      | places hpos => exact absurd hzero hpos.ne'
      | exponent hpos => exact absurd hzero hpos.ne'
  | places hpos hshortest hinside hunits hlayout =>
      cases ht with
      | zero hzero => exact absurd hzero hpos.ne'
      | places _ hshortest' _ hunits' hlayout' =>
          obtain ⟨rfl, rfl⟩ := hshortest.eq hnormal (hm hpos) hshortest'
          obtain rfl := Nat.cast_injective (hunits.trans hunits'.symm)
          exact hlayout.eq hlayout'
      | exponent _ hshortest' houtside =>
          obtain ⟨rfl, rfl⟩ := hshortest.eq hnormal (hm hpos) hshortest'
          omega
  | exponent hpos hshortest houtside hlayout =>
      cases ht with
      | zero hzero => exact absurd hzero hpos.ne'
      | places _ hshortest' hinside =>
          obtain ⟨rfl, rfl⟩ := hshortest.eq hnormal (hm hpos) hshortest'
          omega
      | exponent _ hshortest' _ hlayout' =>
          obtain ⟨rfl, rfl⟩ := hshortest.eq hnormal (hm hpos) hshortest'
          exact hlayout.eq hlayout'

/-! ## And there is one -/

/-- Digits of a number that is no multiple of ten do not end in a zero. -/
theorem getLast?_ne_zero_of_not_dvd {count n : ℕ} {s : Text} (h : AreDigits count n s)
    (hn : ¬ 10 ∣ n) : s.getLast? ≠ some '0' := by
  intro hlast
  obtain ⟨front, rfl⟩ := List.getLast?_eq_some_iff.mp hlast
  have hvalue := h.value
  rw [Nat.ofDigitChars_append] at hvalue
  exact hn ⟨Nat.ofDigitChars 10 front 0, hvalue.symm⟩

/-- The digits of the shortest decimal are those found, without the zeros at the end. -/
theorem exists_shortestDigits (hnormal : IsNormal m q) (hm : 0 < m) :
    ∃ count d, IsShortest (m * 2 ^ q) count d ∧
      AreDigits count d.coefficient (dropFinalZeros (Text.ofNat (shortest m q).coefficient)) ∧
      ((Text.ofNat (shortest m q).coefficient).length : ℤ) + (shortest m q).exponent =
        d.exponent + count := by
  rcases isShortest_shortest hnormal hm with ⟨count, h⟩ | ⟨e, heq, h⟩
  · obtain ⟨k, rfl⟩ : ∃ k, count = k + 1 := Nat.exists_eq_add_one.mpr h.count_pos
    have hdigits : AreDigits (k + 1) (shortest m q).coefficient
        (Text.ofNat (shortest m q).coefficient) := by
      have hnumeral := AreDigits.toDigits (shortest m q).coefficient
      rwa [AreDigits.length_toDigits h.full.2 (.inr h.full.1)] at hnumeral
    refine ⟨k + 1, _, h, ?_, by rw [hdigits.length, add_comm]⟩
    rwa [dropFinalZeros_of_getLast? (getLast?_ne_zero_of_not_dvd hdigits h.not_dvd)]
  · have hten : Text.ofNat 10 = ['1', '0'] := by decide
    have hone : dropFinalZeros ['1', '0'] = ['1'] := by rfl
    rw [heq, hten, hone]
    refine ⟨1, _, h, ⟨rfl, List.forall_mem_singleton.mpr rfl, rfl⟩, ?_⟩
    show (2 : ℤ) + e = e + 1 + (1 : ℕ)
    omega

section Digits

variable {v : ℚ} {count : ℕ} {d : Decimal} {ds : Text}

/-- Digits with a point among them or behind them, and at least one digit behind the point. -/
def withPlace (s : Text) : Text :=
  if s.contains '.' then s else s ++ ['.', '0']

theorem withPlace_withPoint {whole fraction : Text} (hwhole : ∀ c ∈ whole, c.isDigit = true) :
    withPlace (withPoint whole fraction false) =
      withPoint whole (if fraction = [] then ['0'] else fraction) true := by
  cases fraction with
  | nil =>
      have hnone : whole.contains '.' = false := by
        rw [← Bool.not_eq_true, List.contains_iff_mem]
        exact fun hmem => absurd (hwhole _ hmem) (by decide)
      show (if whole.contains '.' then whole else whole ++ ['.', '0']) = whole ++ ['.', '0']
      rw [hnone]
      rfl
  | cons c s =>
      have hsome : (whole ++ '.' :: c :: s).contains '.' = true :=
        List.contains_iff_mem.mpr (List.mem_append_right _ List.mem_cons_self)
      show (if (whole ++ '.' :: c :: s).contains '.' then whole ++ '.' :: c :: s else _) = _
      rw [hsome]
      rfl

section Places

variable (hpositive : 0 < v) (hshortest : IsShortest v count d)
  (hinside : -4 ≤ firstExponent d count ∧ firstExponent d count < 16)
include hpositive hshortest hinside

/-- Zeros behind the digits of a decimal, and with them the digits in front of its places. -/
theorem isPlain_of_digits {k zeros : ℕ} (hzeros : (zeros : ℤ) = plainPlaces d + d.exponent)
    (hdigits : AreDigits (k + 1 + plainPlaces d) (d.coefficient * 10 ^ zeros) ds)
    (hfirst : k = 0 ∨ 10 ^ (k + plainPlaces d) ≤ d.coefficient * 10 ^ zeros) :
    IsPlain v (withPoint (ds.take (k + 1)) (ds.drop (k + 1)) true) := by
  have hunits : ((d.coefficient * 10 ^ zeros : ℕ) : ℚ) = d.value * 10 ^ plainPlaces d := by
    rw [value, mul_assoc, ← zpow_natCast, ← zpow_add₀ (by norm_num), add_comm, ← hzeros, zpow_natCast,
      Nat.cast_mul, Nat.cast_pow, Nat.cast_ofNat]
  exact .places hpositive hshortest hinside hunits (withPlaces_of_digits hdigits hfirst true true)

variable (hdigits : AreDigits count d.coefficient ds)
include hdigits

/-- Below one there are zeros between the point and the first digit. -/
theorem isPlain_of_point_nonpos (hpoint : d.exponent + count ≤ 0) :
    IsPlain v (withPlace (positional ds (d.exponent + count) false)) := by
  have hcount := hshortest.count_pos
  obtain ⟨k, hk⟩ : ∃ k : ℕ, -(d.exponent + count) = k := Int.eq_ofNat_of_zero_le (by omega)
  have hplaces : plainPlaces d = k + count := by
    rw [plainPlaces]
    omega
  have hne : List.replicate k '0' ++ ds ≠ [] := by
    refine List.append_ne_nil_of_right_ne_nil _ (List.ne_nil_of_length_pos ?_)
    rw [hdigits.length]
    exact hcount
  have hall := hdigits.zeros_append (0 + 1 + k)
  rw [Nat.add_assoc, ← hplaces, List.replicate_add, List.append_assoc, ← Nat.mul_one d.coefficient,
    ← Nat.pow_zero 10] at hall
  have hplain := isPlain_of_digits hpositive hshortest hinside (by omega) hall (.inl rfl)
  rw [positional, if_pos hpoint, hk, Int.toNat_natCast,
    withPlace_withPoint (List.forall_mem_singleton.mpr rfl), if_neg hne]
  exact hplain

/-- The point stands among the digits. -/
theorem isPlain_of_exponent_neg (hpoint : 0 < d.exponent + count) (hexponent : d.exponent < 0) :
    IsPlain v (withPlace (positional ds (d.exponent + count) false)) := by
  obtain ⟨k, hk⟩ : ∃ k : ℕ, d.exponent + count = (k + 1 : ℕ) :=
    ⟨(d.exponent + count).toNat - 1, by omega⟩
  have hplaces : k + 1 + plainPlaces d = count := by
    rw [plainPlaces]
    omega
  have hne : ds.drop (k + 1) ≠ [] := by
    refine List.ne_nil_of_length_pos ?_
    rw [List.length_drop, hdigits.length]
    omega
  have hfull := hshortest.full.1
  have hall := hdigits
  rw [← hplaces, ← Nat.mul_one d.coefficient, ← Nat.pow_zero 10] at hall
  have hfirst : 10 ^ (k + plainPlaces d) ≤ d.coefficient * 10 ^ 0 := by
    have hpred : k + plainPlaces d = count - 1 := by omega
    rw [hpred, Nat.pow_zero, Nat.mul_one]
    exact hfull
  have hplain := isPlain_of_digits hpositive hshortest hinside (by omega) hall (.inr hfirst)
  have hnone : k + 1 - ds.length = 0 := by
    rw [hdigits.length]
    omega
  rw [positional, if_neg (by omega), hk, Int.toNat_natCast, hnone]
  show IsPlain v (withPlace (withPoint (ds.take (k + 1) ++ []) (ds.drop (k + 1)) false))
  rw [List.append_nil,
    withPlace_withPoint fun c hc => hdigits.digits c (List.mem_of_mem_take hc), if_neg hne]
  exact hplain

/-- An integer has zeros in front of the point, and one behind it. -/
theorem isPlain_of_exponent_nonneg (hexponent : 0 ≤ d.exponent) :
    IsPlain v (withPlace (positional ds (d.exponent + count) false)) := by
  have hcount := hshortest.count_pos
  obtain ⟨j, hj⟩ : ∃ j : ℕ, d.exponent = j := Int.eq_ofNat_of_zero_le hexponent
  obtain ⟨k, hk⟩ : ∃ k, j + count = k + 1 := ⟨j + count - 1, by omega⟩
  have hpoint : (d.exponent + count).toNat = j + count := by omega
  have hplaces : plainPlaces d = 1 := by
    rw [plainPlaces]
    omega
  -- one zero more than the exponent says: the last one is behind the point
  have hall := hdigits.append_zeros (j + 1)
  have htotal : count + (j + 1) = k + 1 + plainPlaces d := by omega
  have hfirst : 10 ^ (k + plainPlaces d) ≤ d.coefficient * 10 ^ (j + 1) := by
    have hsum : k + plainPlaces d = count - 1 + (j + 1) := by omega
    rw [hsum, Nat.pow_add]
    exact Nat.mul_le_mul_right _ hshortest.full.1
  rw [htotal] at hall
  have hplain := isPlain_of_digits hpositive hshortest hinside (by omega) hall (.inr hfirst)
  have hlength : (ds ++ List.replicate j '0').length = k + 1 := by
    rw [List.length_append, List.length_replicate, hdigits.length]
    omega
  rw [List.replicate_succ', ← List.append_assoc, ← hlength, List.take_left, List.drop_left] at hplain
  have hwhole : ∀ c ∈ ds ++ List.replicate j '0', c.isDigit = true := (hdigits.append_zeros j).digits
  have hrest : j + count - ds.length = j := by
    rw [hdigits.length]
    omega
  have hle : ds.length ≤ j + count := by
    rw [hdigits.length]
    exact Nat.le_add_left count j
  rw [positional, if_neg (by omega), hpoint, hrest, List.take_of_length_le hle,
    List.drop_eq_nil_of_le hle]
  show IsPlain v (withPlace (withPoint (ds ++ List.replicate j '0') [] false))
  rw [withPlace_withPoint hwhole, if_pos rfl]
  exact hplain

end Places

end Digits

/-- The plain text of a magnitude is the one it is said to be. -/
theorem isPlain_magnitudeText (hnormal : IsNormal m q) : IsPlain (m * 2 ^ q) (magnitudeText m q) := by
  rw [magnitudeText]
  split
  · rename_i hzero
    rw [hzero, Nat.cast_zero, zero_mul]
    exact .zero rfl
  · rename_i hne
    have hm : 0 < m := Nat.pos_of_ne_zero hne
    have hpositive : (0 : ℚ) < m * 2 ^ q := multiple_pos hm
    obtain ⟨count, d, hshortest, hdigits, hpoint⟩ := exists_shortestDigits hnormal hm
    dsimp only
    rw [hpoint]
    -- from here on only the digits of the shortest decimal matter
    generalize dropFinalZeros _ = ds at hdigits ⊢
    split
    · rename_i hinside
      have hinside : -4 ≤ firstExponent d count ∧ firstExponent d count < 16 := by
        rw [firstExponent]
        omega
      show IsPlain _ (withPlace (positional ds (d.exponent + count) false))
      rcases Int.lt_or_le 0 (d.exponent + count) with hpos | hnonpos
      · rcases Int.lt_or_le d.exponent 0 with hneg | hnonneg
        · exact isPlain_of_exponent_neg hpositive hshortest hinside hdigits hpos hneg
        · exact isPlain_of_exponent_nonneg hpositive hshortest hinside hdigits hnonneg
      · exact isPlain_of_point_nonpos hpositive hshortest hinside hdigits hnonpos
    · rename_i houtside
      have houtside : firstExponent d count < -4 ∨ 16 ≤ firstExponent d count := by
        rw [firstExponent]
        omega
      exact .exponent hpositive hshortest houtside
        (withExponent_of_digits hdigits hshortest.count_pos true false _)

end Texts

/-- The text of a double is the one it is said to be. -/
theorem isText_iff {x : Float} {s : Text} : IsText x s ↔ s = text x := by
  -- a finite double is its sign and the plain text of its magnitude
  have hfinite : ∀ negative m q, parts x = .finite negative m q →
      value? x = some (signed negative m q) ∧
        IsPlain |signed negative m q| (magnitudeText m q) := by
    intro negative m q hparts
    refine ⟨value?_eq_some_iff.mpr ⟨negative, m, q, hparts, rfl⟩, ?_⟩
    rw [abs_signed]
    exact isPlain_magnitudeText (isNormal_of_parts hparts)
  rw [text]
  constructor
  · rintro (⟨hvalue, hplain⟩ | hinfinite | hnan)
    · obtain ⟨negative, m, q, hparts, rfl⟩ := value?_eq_some_iff.mp hvalue
      rw [hparts, isNegative_of_parts hparts]
      have heq := hfinite negative m q hparts
      rw [abs_signed] at hplain heq
      rw [hplain.eq (isNormal_of_parts hparts) heq.2]
      cases negative <;> rfl
    · rw [hinfinite]
      rename_i negative
      cases negative <;> rfl
    · rw [hnan]
      rfl
  · rintro rfl
    cases hparts : parts x with
    | finite negative m q =>
        obtain ⟨hvalue, hplain⟩ := hfinite negative m q hparts
        have h := IsText.finite hvalue hplain
        rw [isNegative_of_parts hparts] at h
        cases negative <;> exact h
    | infinite negative =>
        have h := IsText.infinite hparts
        cases negative <;> exact h
    | nan => exact .nan hparts

end SignalLab.Double
