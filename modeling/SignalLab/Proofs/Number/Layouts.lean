import SignalLab.Proofs.Number.Decimals

/-!
# Layouts — the texts of doubles with a precision

A number is laid out with places behind a point (`WithPlaces`) or with one digit in front of the point
and an exponent behind the others (`WithExponent`); zeros at the end and a point with nothing behind it
are kept or not.  The fixed style rounds to places, the scientific style to significant digits, and the
general style rounds to significant digits too and takes either layout, by the exponent
(`IsLaidOut`).  A number has one text in each style (`IsLaidOut.eq`), and the text of a double is the one
of the number that it stands for (`isFormatted_iff`).
-/

namespace SignalLab.Double

open Text Decimal

/-! ## Points, zeros and exponents -/

/-- Digits in front of a point and behind it.  The point is left out if nothing stands behind it and
nothing asks for it. -/
inductive IsPointed (keep : Bool) (whole : Text) : Text → Text → Prop
  | plain (drop : keep = false) : IsPointed keep whole [] whole
  | point {fraction : Text} (needed : fraction ≠ [] ∨ keep = true) :
      IsPointed keep whole fraction (whole ++ '.' :: fraction)

/-- Digits whose zeros at the end are kept or taken away. -/
inductive IsStripped (keep : Bool) : Text → Text → Prop
  | all {digits : Text} (all : keep = true) : IsStripped keep digits digits
  | zeros {digits : Text} (strip : keep = false) (last : digits.getLast? ≠ some '0') (k : ℕ) :
      IsStripped keep (digits ++ List.replicate k '0') digits

/-- An exponent has a sign and at least two digits. -/
inductive IsExponent (e : ℤ) : Text → Prop
  | mk {digits : Text}
      (written : AreDigits (max 2 (Nat.toDigits 10 e.natAbs).length) e.natAbs digits) :
      IsExponent e ('e' :: (if e < 0 then '-' else '+') :: digits)

/-! ## Layouts -/

/-- A number of units of the last place, laid out with that many places. -/
inductive WithPlaces (zeros keep : Bool) (places n : ℕ) : Text → Prop
  | mk {fraction kept s : Text} (written : AreDigits places (n % 10 ^ places) fraction)
      (stripped : IsStripped zeros fraction kept)
      (pointed : IsPointed keep (Nat.toDigits 10 (n / 10 ^ places)) kept s) :
      WithPlaces zeros keep places n s

/-- A coefficient of so many digits, laid out with its point behind the first of them and with an
exponent. -/
inductive WithExponent (zeros keep : Bool) (count c : ℕ) (e : ℤ) : Text → Prop
  | mk {first : Char} {others kept s exponent : Text}
      (written : AreDigits count c (first :: others)) (stripped : IsStripped zeros others kept)
      (pointed : IsPointed keep [first] kept s) (raised : IsExponent e exponent) :
      WithExponent zeros keep count c e (s ++ exponent)

/-- The number of digits that the general style rounds to. -/
def generalDigits (precision : ℕ) : ℕ :=
  max precision 1

/-- The text of a number in a style. -/
inductive IsLaidOut (precision : ℕ) (alternate : Bool) (v : ℚ) : Style → Text → Prop
  | fixed {n : ℕ} {s : Text} (nearest : IsHalfEven (v * 10 ^ precision) n)
      (layout : WithPlaces true alternate precision n s) : IsLaidOut precision alternate v .fixed s
  | scientific {c : ℕ} {e : ℤ} {s : Text} (rounded : IsRounded (precision + 1) v c e)
      (layout : WithExponent true alternate (precision + 1) c e s) :
      IsLaidOut precision alternate v .scientific s
  | exponent {c : ℕ} {e : ℤ} {s : Text} (rounded : IsRounded (generalDigits precision) v c e)
      (outside : e < -4 ∨ (generalDigits precision : ℤ) ≤ e)
      (layout : WithExponent alternate alternate (generalDigits precision) c e s) :
      IsLaidOut precision alternate v .general s
  | places {c : ℕ} {e : ℤ} {s : Text} (rounded : IsRounded (generalDigits precision) v c e)
      (inside : -4 ≤ e ∧ e < (generalDigits precision : ℤ))
      (layout : WithPlaces alternate alternate ((generalDigits precision : ℤ) - 1 - e).toNat c s) :
      IsLaidOut precision alternate v .general s

/-! ## There is one text at most -/

/-- Digits are written with their point in one way. -/
theorem isPointed_iff {keep : Bool} {whole fraction s : Text} :
    IsPointed keep whole fraction s ↔ s = withPoint whole fraction keep := by
  rw [withPoint]
  constructor
  · rintro (hdrop | hneeded)
    · rw [hdrop]
      rfl
    · have hkeep : ¬ (fraction.isEmpty && !keep) = true := by
        rw [Bool.and_eq_true, List.isEmpty_iff, Bool.not_eq_true']
        rintro ⟨hempty, hdrop⟩
        rcases hneeded with hne | hkeep
        · exact hne hempty
        · cases hdrop.symm.trans hkeep
      rw [if_neg hkeep]
  · rintro rfl
    split
    · rename_i hdrop
      rw [Bool.and_eq_true, List.isEmpty_iff, Bool.not_eq_true'] at hdrop
      rw [hdrop.1]
      exact .plain hdrop.2
    · rename_i hkeep
      rw [Bool.and_eq_true, List.isEmpty_iff, Bool.not_eq_true', not_and_or,
        Bool.not_eq_false] at hkeep
      exact .point hkeep

/-- Zeros are taken away one by one from the end. -/
theorem dropFinalZeros_append_zeros (digits : Text) (k : ℕ) :
    dropFinalZeros (digits ++ List.replicate k '0') = dropFinalZeros digits := by
  rw [dropFinalZeros, dropFinalZeros, List.reverse_append, List.reverse_replicate,
    List.dropWhile_append_of_pos]
  intro c hc
  rw [List.eq_of_mem_replicate hc]
  rfl

/-- Nothing is dropped if the last digit is not zero. -/
theorem dropFinalZeros_of_getLast? {digits : Text} (h : digits.getLast? ≠ some '0') :
    dropFinalZeros digits = digits := by
  rw [dropFinalZeros]
  cases hreverse : digits.reverse with
  | nil =>
      rw [List.reverse_eq_nil_iff.mp hreverse]
      rfl
  | cons c s =>
      have hlast : digits.getLast? = some c := by
        rw [← List.head?_reverse, hreverse]
        rfl
      have hc : ¬ (c == '0') = true := by
        rw [beq_iff_eq]
        rintro rfl
        exact h hlast
      rw [List.dropWhile_cons_of_neg (p := (· == '0')) hc, ← hreverse, List.reverse_reverse]

/-- What is left without the zeros at the end does not end in one. -/
theorem exists_eq_dropFinalZeros_append (digits : Text) :
    (dropFinalZeros digits).getLast? ≠ some '0' ∧
      ∃ k, digits = dropFinalZeros digits ++ List.replicate k '0' := by
  have hsplit := List.takeWhile_append_dropWhile (p := (· == '0')) (l := digits.reverse)
  constructor
  · intro hlast
    rw [dropFinalZeros, List.getLast?_reverse] at hlast
    have hfirst := List.head?_dropWhile_not (· == '0') digits.reverse
    rw [hlast] at hfirst
    cases hfirst
  · refine ⟨(digits.reverse.takeWhile (· == '0')).length, ?_⟩
    have hzeros : digits.reverse.takeWhile (· == '0') =
        List.replicate (digits.reverse.takeWhile (· == '0')).length '0' := by
      refine List.eq_replicate_of_mem fun c hc => ?_
      exact beq_iff_eq.mp (List.all_eq_true.mp List.all_takeWhile c hc)
    rw [dropFinalZeros, ← List.reverse_replicate, ← hzeros, ← List.reverse_append, hsplit,
      List.reverse_reverse]

/-- Digits lose their zeros at the end, or keep all of them. -/
theorem isStripped_iff {keep : Bool} {digits kept : Text} :
    IsStripped keep digits kept ↔ kept = if keep then digits else dropFinalZeros digits := by
  constructor
  · rintro (hall | ⟨hstrip, hlast, k⟩)
    · rw [hall]
      rfl
    · rw [hstrip, dropFinalZeros_append_zeros, dropFinalZeros_of_getLast? hlast]
      rfl
  · rintro rfl
    cases keep with
    | true => exact .all rfl
    | false =>
        obtain ⟨hlast, k, hk⟩ := exists_eq_dropFinalZeros_append digits
        have h : IsStripped false _ (dropFinalZeros digits) := .zeros rfl hlast k
        rwa [← hk] at h

/-- An exponent is written in one way. -/
theorem isExponent_iff {e : ℤ} {s : Text} : IsExponent e s ↔ s = exponentText 'e' e := by
  have hdigits := AreDigits.ofNatPadded 2 e.natAbs
  constructor
  · rintro ⟨h⟩
    rw [exponentText, h.eq hdigits]
  · rintro rfl
    exact .mk hdigits

section Unique

variable {zeros keep : Bool} {count c places n : ℕ} {e : ℤ} {s t : Text}

/-- A number with places is written in one way. -/
theorem WithPlaces.eq (hs : WithPlaces zeros keep places n s)
    (ht : WithPlaces zeros keep places n t) : s = t := by
  obtain ⟨hsfraction, hsstripped, hspointed⟩ := hs
  obtain ⟨htfraction, htstripped, htpointed⟩ := ht
  obtain rfl := hsfraction.eq htfraction
  obtain rfl := (isStripped_iff.mp hsstripped).trans (isStripped_iff.mp htstripped).symm
  exact (isPointed_iff.mp hspointed).trans (isPointed_iff.mp htpointed).symm

/-- So is one with an exponent. -/
theorem WithExponent.eq (hs : WithExponent zeros keep count c e s)
    (ht : WithExponent zeros keep count c e t) : s = t := by
  obtain ⟨hsdigits, hsstripped, hspointed, hsexponent⟩ := hs
  obtain ⟨htdigits, htstripped, htpointed, htexponent⟩ := ht
  obtain ⟨rfl, rfl⟩ := List.cons.inj (hsdigits.eq htdigits)
  obtain rfl := (isStripped_iff.mp hsstripped).trans (isStripped_iff.mp htstripped).symm
  rw [isPointed_iff.mp hspointed, isPointed_iff.mp htpointed, isExponent_iff.mp hsexponent,
    isExponent_iff.mp htexponent]

/-- A number has one text in a style. -/
theorem IsLaidOut.eq {precision : ℕ} {alternate : Bool} {v : ℚ} {style : Style}
    (hs : IsLaidOut precision alternate v style s)
    (ht : IsLaidOut precision alternate v style t) : s = t := by
  have hpos : 0 < generalDigits precision := Nat.lt_of_lt_of_le Nat.one_pos (Nat.le_max_right _ _)
  -- a number is rounded in one way, and the exponent of the result tells the two general layouts apart
  cases hs with
  | fixed nearest layout =>
      cases ht with
      | fixed nearest' layout' =>
          obtain rfl := nearest.eq nearest'
          exact layout.eq layout'
  | scientific rounded layout =>
      cases ht with
      | scientific rounded' layout' =>
          obtain ⟨rfl, rfl⟩ := rounded.eq (Nat.succ_pos _) rounded'
          exact layout.eq layout'
  | exponent rounded outside layout =>
      cases ht with
      | exponent rounded' outside' layout' =>
          obtain ⟨rfl, rfl⟩ := rounded.eq hpos rounded'
          exact layout.eq layout'
      | places rounded' inside' layout' =>
          obtain ⟨rfl, rfl⟩ := rounded.eq hpos rounded'
          omega
  | places rounded inside layout =>
      cases ht with
      | exponent rounded' outside' layout' =>
          obtain ⟨rfl, rfl⟩ := rounded.eq hpos rounded'
          omega
      | places rounded' inside' layout' =>
          obtain ⟨rfl, rfl⟩ := rounded.eq hpos rounded'
          exact layout.eq layout'

end Unique

/-! ## And there is one -/

/-- Zeros behind digits are taken away or kept with them. -/
def strip (keep : Bool) (digits : Text) : Text :=
  if keep then digits else dropFinalZeros digits

section Layouts

variable {k places count n c : ℕ} {digits : Text}

/-- Digits with enough of them in front of the last places are laid out with these. -/
theorem withPlaces_of_digits (h : AreDigits (k + 1 + places) n digits)
    (hfirst : k = 0 ∨ 10 ^ (k + places) ≤ n) (zeros keep : Bool) :
    WithPlaces zeros keep places n
      (withPoint (digits.take (k + 1)) (strip zeros (digits.drop (k + 1))) keep) := by
  obtain ⟨hwhole, hfraction⟩ := h.take_drop
  have hnumeral : k = 0 ∨ 10 ^ k ≤ n / 10 ^ places := by
    refine hfirst.imp_right fun hle => ?_
    rwa [Nat.le_div_iff_mul_le (Nat.pow_pos (by decide)), ← Nat.pow_add]
  rw [hwhole.eq_toDigits hnumeral]
  exact .mk hfraction (isStripped_iff.mpr rfl) (isPointed_iff.mpr rfl)

/-- Digits are laid out with their point behind the first of them. -/
theorem withExponent_of_digits (h : AreDigits count c digits) (hcount : 0 < count)
    (zeros keep : Bool) (e : ℤ) :
    WithExponent zeros keep count c e
      (withPoint (digits.take 1) (strip zeros (digits.drop 1)) keep ++ exponentText 'e' e) := by
  cases digits with
  | nil =>
      have hzero : 0 = count := h.length
      omega
  | cons first others =>
      exact .mk h (isStripped_iff.mpr rfl) (isPointed_iff.mpr rfl) (isExponent_iff.mpr rfl)

/-- With enough digits the point stands among them. -/
theorem positional_eq_withPoint (h : digits.length = k + 1 + places) (keep : Bool) :
    positional digits ((digits.length : ℤ) - places) keep =
      withPoint (digits.take (k + 1)) (digits.drop (k + 1)) keep := by
  have hpoint : ((digits.length : ℤ) - places).toNat = k + 1 := by omega
  have hfull : k + 1 - digits.length = 0 := by omega
  rw [positional, if_neg (by omega), hpoint, hfull]
  show withPoint (digits.take (k + 1) ++ []) _ _ = _
  rw [List.append_nil]

end Layouts

section Styles

variable {num den : ℕ}

/-- The fixed style is laid out as said, if the value has no more exact places than are computed. -/
theorem isLaidOut_fixedText (hden : den ≠ 0)
    (hexact : ∃ N : ℕ, (num / den : ℚ) * 10 ^ exactDigits = N) (precision : ℕ) (alternate : Bool) :
    IsLaidOut precision alternate (num / den) .fixed (fixedText precision alternate num den) := by
  have hnearest := isHalfEven_ofPlaces num hden (min precision exactDigits)
  rw [fixedText]
  generalize ofPlaces num den (min precision exactDigits) = n at hnearest ⊢
  -- the places beyond the exact ones are zeros
  have hall : IsHalfEven (num / den * 10 ^ precision) (n * 10 ^ (precision - exactDigits)) := by
    rcases Nat.le_total precision exactDigits with hle | hle
    · rw [Nat.min_eq_left hle] at hnearest
      rwa [Nat.sub_eq_zero_of_le hle, Nat.pow_zero, Nat.mul_one]
    · rw [Nat.min_eq_right hle] at hnearest
      have h := hnearest.extend hexact (precision - exactDigits)
      rwa [Nat.add_sub_cancel' hle] at h
  have hdigits := (AreDigits.ofNatPadded (min precision exactDigits + 1) n).append_zeros
    (precision - exactDigits)
  have hpos : 0 < (Nat.toDigits 10 n).length := Nat.length_toDigits_pos
  obtain ⟨k, hk⟩ : ∃ k, max (min precision exactDigits + 1) (Nat.toDigits 10 n).length +
      (precision - exactDigits) = k + 1 + precision :=
    ⟨max (min precision exactDigits + 1) (Nat.toDigits 10 n).length - 1 -
      min precision exactDigits, by omega⟩
  rw [hk] at hdigits
  have hfirst : k = 0 ∨ 10 ^ (k + precision) ≤ n * 10 ^ (precision - exactDigits) := by
    rcases Nat.eq_zero_or_pos k with hzero | hkpos
    · exact .inl hzero
    · have hlength : (Nat.toDigits 10 n).length = k + 1 + min precision exactDigits := by omega
      have hlong : ¬ (Nat.toDigits 10 n).length ≤ k + min precision exactDigits := by omega
      rw [Nat.length_toDigits_le_iff (by decide) (by omega), Nat.not_lt] at hlong
      have hsplit : k + precision = k + min precision exactDigits + (precision - exactDigits) := by
        omega
      rw [hsplit, Nat.pow_add]
      exact .inr (Nat.mul_le_mul_right _ hlong)
  have hlayout := withPlaces_of_digits hdigits hfirst true alternate
  refine .fixed hall ?_
  show WithPlaces true alternate precision _ (positional _ _ alternate)
  rw [furtherZeros, positional_eq_withPoint hdigits.length]
  exact hlayout

/-- The digits of a quotient with zeros behind them, which stand for digits beyond the exact ones. -/
def significantDigits (num den count zeros : ℕ) : Text :=
  Text.ofNatPadded count (ofSignificant num den count).coefficient ++ List.replicate zeros '0'

/-- They write the number rounded to all of them. -/
theorem exists_significantDigits (hden : den ≠ 0)
    (hexact : ∃ N : ℕ, (num / den : ℚ) *
      10 ^ ((exactDigits : ℤ) - 1 - Int.log 10 (num / den : ℚ)) = N) (count zeros : ℕ)
    (hcount : 0 < count) (hzeros : zeros = 0 ∨ exactDigits ≤ count) :
    ∃ c, IsRounded (count + zeros) (num / den) c
        ((ofSignificant num den count).exponent + ((count : ℤ) - 1)) ∧
      AreDigits (count + zeros) c (significantDigits num den count zeros) := by
  have hrounded := isRounded_ofSignificant num hden hcount
  rw [significantDigits]
  generalize (ofSignificant num den count).coefficient = c at hrounded ⊢
  generalize (ofSignificant num den count).exponent + ((count : ℤ) - 1) = e at hrounded ⊢
  refine ⟨c * 10 ^ zeros, ?_, (AreDigits.ofNatPadded_of_lt hcount hrounded.lt).append_zeros zeros⟩
  rcases hzeros with rfl | hle
  · rwa [Nat.pow_zero, Nat.mul_one]
  · refine hrounded.extend hcount ?_ zeros
    obtain ⟨N, hN⟩ := hexact
    have hsplit : (count : ℤ) - 1 - Int.log 10 (num / den : ℚ) =
        ((exactDigits : ℤ) - 1 - Int.log 10 (num / den : ℚ)) + (count - exactDigits : ℕ) := by
      omega
    refine ⟨N * 10 ^ (count - exactDigits), ?_⟩
    rw [hsplit, zpow_add₀ (by norm_num : (10 : ℚ) ≠ 0), ← mul_assoc, hN, zpow_natCast, Nat.cast_mul,
      Nat.cast_pow, Nat.cast_ofNat]

/-- So is the scientific style, if it has no more exact digits. -/
theorem isLaidOut_scientificText (hden : den ≠ 0)
    (hexact : ∃ N : ℕ, (num / den : ℚ) *
      10 ^ ((exactDigits : ℤ) - 1 - Int.log 10 (num / den : ℚ)) = N)
    (precision : ℕ) (alternate : Bool) :
    IsLaidOut precision alternate (num / den) .scientific
      (scientificText precision alternate num den) := by
  obtain ⟨c, hrounded, hdigits⟩ := exists_significantDigits hden hexact
    (min precision exactDigits + 1) (precision - exactDigits) (Nat.succ_pos _) (by omega)
  have hcount : min precision exactDigits + 1 + (precision - exactDigits) = precision + 1 := by omega
  rw [hcount] at hrounded hdigits
  rw [Nat.cast_add_one, add_sub_cancel_right] at hrounded
  refine .scientific hrounded ?_
  exact withExponent_of_digits hdigits (Nat.succ_pos precision) true alternate _

/-- Zeros at the end are taken away or not, further ones with them. -/
theorem strip_append_zeros (alternate : Bool) (digits : Text) (zeros : ℕ) :
    strip alternate (digits ++ List.replicate zeros '0') =
      if alternate then digits ++ List.replicate zeros '0' else dropFinalZeros digits := by
  cases alternate with
  | true => rfl
  | false => exact dropFinalZeros_append_zeros digits zeros

/-- The three ways in which the general style lays digits out, with zeros behind them. -/
theorem generalLayout_eq {digits : Text} (hne : digits ≠ []) {e : ℤ} {count : ℕ}
    (he : e < count → e < digits.length) (zeros : ℕ) (alternate : Bool) :
    generalLayout count alternate
        (if alternate then digits ++ List.replicate zeros '0' else digits) e =
      if e < -4 ∨ (count : ℤ) ≤ e then
        withPoint ((digits ++ List.replicate zeros '0').take 1)
          (strip alternate ((digits ++ List.replicate zeros '0').drop 1)) alternate ++
          exponentText 'e' e
      else if e < 0 then
        withPoint ['0'] (strip alternate (List.replicate (-e - 1).toNat '0' ++
          (digits ++ List.replicate zeros '0'))) alternate
      else
        withPoint ((digits ++ List.replicate zeros '0').take (e + 1).toNat)
          (strip alternate ((digits ++ List.replicate zeros '0').drop (e + 1).toNat)) alternate := by
  rw [generalLayout]
  split
  · cases alternate with
    | true => rfl
    | false =>
        obtain ⟨first, others, rfl⟩ := List.exists_cons_of_ne_nil hne
        exact congrArg (fun kept => withPoint [first] kept false ++ exponentText 'e' e)
          (dropFinalZeros_append_zeros others zeros).symm
  · split
    · cases alternate with
      | true => rfl
      | false =>
          show withPoint ['0'] (dropFinalZeros (List.replicate (-e - 1).toNat '0' ++ digits)) false = _
          rw [← List.append_assoc, strip_append_zeros]
          rfl
    -- the point stands among the digits, so that zeros behind them are behind the point
    · rename_i houtside _
      have hlt := he (by omega)
      have hnone : (-e - 1).toNat = 0 := by omega
      have hle : (e + 1).toNat ≤ digits.length := by omega
      rw [hnone, List.take_append_of_le_length hle, List.drop_append_of_le_length hle,
        strip_append_zeros]
      cases alternate with
      | true =>
          show withPoint ((digits ++ _).take _) ([] ++ (digits ++ _).drop _) true = _
          rw [List.take_append_of_le_length hle, List.drop_append_of_le_length hle]
          rfl
      | false => rfl

/-- The coefficient of a rounded number has its first digit at the front, unless it is zero. -/
theorem eq_zero_or_le_of_isRounded {count c : ℕ} {v : ℚ} {e : ℤ} (h : IsRounded count v c e) :
    c = 0 ∧ e = 0 ∨ 10 ^ (count - 1) ≤ c := by
  cases h with
  | zero => exact .inl ⟨rfl, rfl⟩
  | digits positive nearest full same => exact .inr full.1

/-- Digits of a rounded number are laid out in the general style as their exponent says. -/
theorem isLaidOut_generalLayout {precision c zeros : ℕ} {v : ℚ} {e : ℤ} {digits : Text}
    (hrounded : IsRounded (generalDigits precision) v c e)
    (hdigits : AreDigits (generalDigits precision) c (digits ++ List.replicate zeros '0'))
    (hne : digits ≠ []) (he : e < generalDigits precision → e < digits.length) (alternate : Bool) :
    IsLaidOut precision alternate v .general
      (generalLayout (generalDigits precision) alternate
        (if alternate then digits ++ List.replicate zeros '0' else digits) e) := by
  have hpos : 0 < generalDigits precision := Nat.lt_of_lt_of_le Nat.one_pos (Nat.le_max_right _ _)
  rw [generalLayout_eq hne he]
  split
  · rename_i houtside
    exact .exponent hrounded houtside (withExponent_of_digits hdigits hpos alternate alternate e)
  · rename_i houtside
    have hinside : -4 ≤ e ∧ e < (generalDigits precision : ℤ) := by omega
    refine .places hrounded hinside ?_
    split
    · -- below one: zeros between the point and the first digit
      rename_i hnegative
      have hplaces : ((generalDigits precision : ℤ) - 1 - e).toNat =
          (-e - 1).toNat + generalDigits precision := by omega
      have hwhole := hdigits.zeros_append (0 + 1 + (-e - 1).toNat)
      rw [Nat.add_assoc, ← hplaces, List.replicate_add, List.append_assoc] at hwhole
      exact withPlaces_of_digits hwhole (.inl rfl) alternate alternate
    · rename_i hnonneg
      obtain ⟨k, rfl⟩ := Int.eq_ofNat_of_zero_le (Int.not_lt.mp hnonneg)
      have hplaces : generalDigits precision =
          k + 1 + ((generalDigits precision : ℤ) - 1 - k).toNat := by omega
      have hfirst : k = 0 ∨ 10 ^ (k + ((generalDigits precision : ℤ) - 1 - k).toNat) ≤ c := by
        rcases eq_zero_or_le_of_isRounded hrounded with ⟨-, hzero⟩ | hfull
        · exact .inl (by omega)
        · have hsum : k + ((generalDigits precision : ℤ) - 1 - k).toNat =
              generalDigits precision - 1 := by omega
          rw [hsum]
          exact .inr hfull
      rw [hplaces] at hdigits
      exact withPlaces_of_digits hdigits hfirst alternate alternate

/-- So is the general one. -/
theorem isLaidOut_generalText (hden : den ≠ 0)
    (hexact : ∃ N : ℕ, (num / den : ℚ) *
      10 ^ ((exactDigits : ℤ) - 1 - Int.log 10 (num / den : ℚ)) = N)
    (hlog : Int.log 10 (num / den : ℚ) < 1024) (precision : ℕ) (alternate : Bool) :
    IsLaidOut precision alternate (num / den) .general
      (generalText precision alternate num den) := by
  have hlarge : exactDigits = 1074 := rfl
  have hpos : 0 < generalDigits precision := Nat.lt_of_lt_of_le Nat.one_pos (Nat.le_max_right _ _)
  have hexactpos : 0 < min (generalDigits precision) exactDigits := by omega
  obtain ⟨c, hrounded, hdigits⟩ := exists_significantDigits hden hexact
    (min (generalDigits precision) exactDigits) (generalDigits precision - exactDigits)
    hexactpos (by omega)
  have hcount : min (generalDigits precision) exactDigits +
      (generalDigits precision - exactDigits) = generalDigits precision := by omega
  rw [hcount] at hrounded hdigits
  have hlength :=
    (AreDigits.ofNatPadded_of_lt hexactpos (isRounded_ofSignificant num hden hexactpos).lt).length
  have hbound := hrounded.exponent_le_log hpos
  rw [significantDigits] at hdigits
  rw [← add_sub_assoc] at hrounded hbound
  refine isLaidOut_generalLayout hrounded hdigits (List.ne_nil_of_length_pos (by omega)) ?_ alternate
  intro hinside
  rw [hlength]
  omega

end Styles

/-! ## Doubles -/

/-- The text of a double in a style, without its sign. -/
inductive IsFormatted (style : Style) (precision : ℕ) (alternate : Bool) (x : Float) : Text → Prop
  | finite {v : ℚ} {s : Text} (value : value? x = some v)
      (layout : IsLaidOut precision alternate |v| style s) :
      IsFormatted style precision alternate x s
  | infinite {negative : Bool} (infinite : parts x = .infinite negative) :
      IsFormatted style precision alternate x "inf"
  | nan (nan : parts x = .nan) : IsFormatted style precision alternate x "nan"

/-- A finite double has no more exact places and digits. -/
theorem isLaidOut_formatMagnitude {m : ℕ} {q : ℤ} (h : IsNormal m q) (hq : q ≤ 971)
    (style : Style) (precision : ℕ) (alternate : Bool) :
    IsLaidOut precision alternate (m * 2 ^ q) style
      (formatMagnitude style precision alternate m q) := by
  have hden : twoTo (-q).toNat ≠ 0 := Nat.ne_of_gt (Nat.two_pow_pos _)
  have hplaces := exists_natCast_places h
  have hdigits := exists_natCast_digits h hq
  have hlog : Int.log 10 ((m : ℚ) * 2 ^ q) < 1024 := by
    rcases Nat.eq_zero_or_pos m with rfl | hm
    · rw [Nat.cast_zero, zero_mul, Int.log_zero_right]
      decide
    · have hlt := log_lt h hq (Nat.ne_of_gt hm)
      omega
  rw [magnitude_eq_div] at hplaces hdigits hlog ⊢
  cases style with
  | fixed => exact isLaidOut_fixedText hden hplaces precision alternate
  | scientific => exact isLaidOut_scientificText hden hdigits precision alternate
  | general => exact isLaidOut_generalText hden hdigits hlog precision alternate

/-- The text of a double is the one that it is formatted as. -/
theorem isFormatted_iff {style : Style} {precision : ℕ} {alternate : Bool} {x : Float} {s : Text} :
    IsFormatted style precision alternate x s ↔
      s = formatUnsigned style precision alternate x := by
  -- a finite double is laid out by its magnitude
  have hfinite : ∀ negative m q, parts x = .finite negative m q →
      value? x = some (signed negative m q) ∧
      IsLaidOut precision alternate |signed negative m q| style
        (formatMagnitude style precision alternate m q) := by
    intro negative m q hparts
    refine ⟨value?_eq_some_iff.mpr ⟨negative, m, q, hparts, rfl⟩, ?_⟩
    rw [abs_signed]
    exact isLaidOut_formatMagnitude (isNormal_of_parts hparts) (exponent_le hparts) style precision
      alternate
  rw [formatUnsigned]
  constructor
  · rintro (⟨hvalue, hlayout⟩ | hinfinite | hnan)
    · obtain ⟨negative, m, q, hparts, rfl⟩ := value?_eq_some_iff.mp hvalue
      rw [hparts]
      exact hlayout.eq (hfinite negative m q hparts).2
    · rw [hinfinite]
      rfl
    · rw [hnan]
      rfl
  · rintro rfl
    cases hparts : parts x with
    | finite negative m q =>
        obtain ⟨hvalue, hlayout⟩ := hfinite negative m q hparts
        exact .finite hvalue hlayout
    | infinite negative => exact .infinite hparts
    | nan => exact .nan hparts

end SignalLab.Double
