import Mathlib.Algebra.Group.Nat.Defs
import SignalLab.Number.Layout
import SignalLab.Proofs.Text.Names

/-!
# Digits — numbers written in decimal

A text of digits writes one number, and for every number of digits there is at most one text that
writes it (`AreDigits.eq`).  Such texts are taken apart and put together at any place: what stands in
front writes the quotient by a power of ten, and what stands behind the remainder.  The numeral of a
number is the text of digits for it that has no zero in front (`AreDigits.eq_toDigits`).
-/

namespace SignalLab.Text

/-- Whether a text writes a number in decimal with so many digits, some of the first perhaps zero. -/
structure AreDigits (count n : Nat) (s : Text) : Prop where
  length : s.length = count
  digits : ∀ c ∈ s, c.isDigit = true
  value : Nat.ofDigitChars 10 s 0 = n

/-- The first digit counts as many units as there are digits behind it. -/
theorem ofDigitChars_cons_zero (c : Char) (s : Text) :
    Nat.ofDigitChars 10 (c :: s) 0 =
      10 ^ s.length * (c.toNat - 48) + Nat.ofDigitChars 10 s 0 := by
  rw [Nat.ofDigitChars_cons, Nat.ofDigitChars_eq_ofDigitChars_zero, Nat.mul_zero, Nat.zero_add]
  rfl

theorem ofDigitChars_lt {s : Text} (hs : ∀ c ∈ s, c.isDigit = true) :
    Nat.ofDigitChars 10 s 0 < 10 ^ s.length := by
  induction s with
  | nil => exact Nat.one_pos
  | cons c s ih =>
      have hc := toNat_of_isDigit (hs c List.mem_cons_self)
      have hrest := ih fun d hd => hs d (List.mem_cons_of_mem _ hd)
      have hfirst : 10 ^ s.length * (c.toNat - 48) ≤ 10 ^ s.length * 9 :=
        Nat.mul_le_mul_left _ (by omega)
      rw [ofDigitChars_cons_zero, List.length_cons, Nat.pow_succ]
      omega

namespace AreDigits

variable {count k n m : Nat} {s t : Text}

/-- A number has to be small enough for its digits. -/
theorem lt (h : AreDigits count n s) : n < 10 ^ count := by
  rw [← h.value, ← h.length]
  exact ofDigitChars_lt h.digits

/-- Two texts of as many digits for the same number are the same. -/
theorem eq (hs : AreDigits count n s) (ht : AreDigits count n t) : s = t := by
  induction s generalizing t count n with
  | nil =>
      have hlength : t.length = 0 := ht.length.trans hs.length.symm
      exact (List.eq_nil_of_length_eq_zero hlength).symm
  | cons c s ih =>
      cases t with
      | nil => cases hs.length.trans ht.length.symm
      | cons d t =>
          have hlength : s.length = t.length :=
            Nat.succ.inj (hs.length.trans ht.length.symm)
          have hsdigits := fun e he => hs.digits e (List.mem_cons_of_mem c he)
          have htdigits := fun e he => ht.digits e (List.mem_cons_of_mem d he)
          have hslt := ofDigitChars_lt hsdigits
          have htlt := ofDigitChars_lt htdigits
          have hvalue : Nat.ofDigitChars 10 (c :: s) 0 = Nat.ofDigitChars 10 (d :: t) 0 :=
            hs.value.trans ht.value.symm
          rw [ofDigitChars_cons_zero, ofDigitChars_cons_zero, ← hlength] at hvalue
          rw [← hlength] at htlt
          -- the first digit is the quotient by the power of ten, the others the remainder
          have hfirst : c.toNat - 48 = d.toNat - 48 := by
            have hquotient : _ / 10 ^ s.length = _ / 10 ^ s.length :=
              congrArg (· / 10 ^ s.length) hvalue
            rwa [Nat.mul_add_div (Nat.pow_pos (by decide)), Nat.div_eq_of_lt hslt,
              Nat.mul_add_div (Nat.pow_pos (by decide)), Nat.div_eq_of_lt htlt] at hquotient
          have hc := toNat_of_isDigit (hs.digits c List.mem_cons_self)
          have hd := toNat_of_isDigit (ht.digits d List.mem_cons_self)
          have hchar : c = d := Char.toNat_inj.mp (by omega)
          rw [hfirst] at hvalue
          rw [hchar, ih ⟨rfl, hsdigits, rfl⟩ ⟨hlength.symm, htdigits, by omega⟩]

/-- No digits write zero. -/
theorem nil : AreDigits 0 0 [] :=
  ⟨rfl, List.forall_mem_nil _, rfl⟩

/-- Zeros write zero. -/
theorem replicate_zero (count : Nat) : AreDigits count 0 (List.replicate count '0') where
  length := List.length_replicate
  digits := by
    intro c hc
    rw [List.eq_of_mem_replicate hc]
    rfl
  value := Nat.ofDigitChars_replicate_zero

theorem append (hs : AreDigits count n s) (ht : AreDigits k m t) :
    AreDigits (count + k) (n * 10 ^ k + m) (s ++ t) where
  length := by rw [List.length_append, hs.length, ht.length]
  digits := by
    intro c hc
    rcases List.mem_append.mp hc with hc | hc
    · exact hs.digits c hc
    · exact ht.digits c hc
  value := by
    rw [Nat.ofDigitChars_append, Nat.ofDigitChars_eq_ofDigitChars_zero, hs.value, ht.value,
      ht.length, Nat.mul_comm]

/-- Zeros behind a number multiply it. -/
theorem append_zeros (hs : AreDigits count n s) (k : Nat) :
    AreDigits (count + k) (n * 10 ^ k) (s ++ List.replicate k '0') :=
  hs.append (replicate_zero k)

/-- Zeros in front of a number change nothing. -/
theorem zeros_append (hs : AreDigits count n s) (k : Nat) :
    AreDigits (k + count) n (List.replicate k '0' ++ s) := by
  have h := (replicate_zero k).append hs
  rwa [Nat.zero_mul, Nat.zero_add] at h

/-- Both parts of a text of digits are texts of digits, and they write the quotient and the
remainder. -/
theorem take_drop (hs : AreDigits (count + k) n s) :
    AreDigits count (n / 10 ^ k) (s.take count) ∧ AreDigits k (n % 10 ^ k) (s.drop count) := by
  have htake : AreDigits count (Nat.ofDigitChars 10 (s.take count) 0) (s.take count) :=
    ⟨by rw [List.length_take, hs.length]; omega, fun c hc => hs.digits c (List.mem_of_mem_take hc),
      rfl⟩
  have hdrop : AreDigits k (Nat.ofDigitChars 10 (s.drop count) 0) (s.drop count) :=
    ⟨by rw [List.length_drop, hs.length]; omega, fun c hc => hs.digits c (List.mem_of_mem_drop hc),
      rfl⟩
  have hvalue := (htake.append hdrop).value
  rw [List.take_append_drop, hs.value] at hvalue
  have hquotient : n / 10 ^ k = Nat.ofDigitChars 10 (s.take count) 0 := by
    rw [hvalue, Nat.mul_comm, Nat.mul_add_div (Nat.pow_pos (by decide)), Nat.div_eq_of_lt hdrop.lt,
      Nat.add_zero]
  have hremainder : n % 10 ^ k = Nat.ofDigitChars 10 (s.drop count) 0 := by
    rw [hvalue, Nat.mul_comm, Nat.mul_add_mod, Nat.mod_eq_of_lt hdrop.lt]
  exact ⟨hquotient ▸ htake, hremainder ▸ hdrop⟩

/-- The numeral of a number writes it. -/
theorem toDigits (n : Nat) : AreDigits (Nat.toDigits 10 n).length n (Nat.toDigits 10 n) where
  length := rfl
  digits := fun _ hc => Nat.isDigit_of_mem_toDigits (by decide) (by decide) hc
  value := Nat.ofDigitChars_ten_toDigits

/-- The number of digits of a numeral. -/
theorem length_toDigits {k : Nat} (hlt : n < 10 ^ (k + 1)) (hle : k = 0 ∨ 10 ^ k ≤ n) :
    (Nat.toDigits 10 n).length = k + 1 := by
  have hup : (Nat.toDigits 10 n).length ≤ k + 1 :=
    (Nat.length_toDigits_le_iff (by decide) (Nat.succ_pos k)).mpr hlt
  have hpos : 0 < (Nat.toDigits 10 n).length := Nat.length_toDigits_pos
  rcases Nat.eq_zero_or_pos k with rfl | hk
  · omega
  · have hlow : ¬ (Nat.toDigits 10 n).length ≤ k := by
      rw [Nat.length_toDigits_le_iff (by decide) hk]
      omega
    omega

/-- Digits without a zero in front, a single one aside, are the numeral. -/
theorem eq_toDigits (hs : AreDigits (k + 1) n s) (hle : k = 0 ∨ 10 ^ k ≤ n) :
    s = Nat.toDigits 10 n := by
  have hnumeral := toDigits n
  rw [length_toDigits hs.lt hle] at hnumeral
  exact hs.eq hnumeral

/-- A numeral with zeros in front has the digits that it should have, or more if it is longer. -/
theorem ofNatPadded (width n : Nat) :
    AreDigits (max width (Nat.toDigits 10 n).length) n (ofNatPadded width n) := by
  have h := (toDigits n).zeros_append (width - (Nat.toDigits 10 n).length)
  rwa [Nat.sub_add_eq_max] at h

theorem ofNatPadded_of_lt {width : Nat} (hwidth : 0 < width) (hn : n < 10 ^ width) :
    AreDigits width n (Text.ofNatPadded width n) := by
  have hle : (Nat.toDigits 10 n).length ≤ width :=
    (Nat.length_toDigits_le_iff (by decide) hwidth).mpr hn
  have h := ofNatPadded width n
  rwa [Nat.max_eq_left hle] at h

end AreDigits

end SignalLab.Text
