import SignalLab.Proofs.Number.Ranges

/-!
# Shortest decimals — the fewest digits that read back

A decimal reads back as a double if the double is nearest to it.  Of the decimals that read back the
shortest one has the fewest digits; of these it is the closest one, and of two that are equally close the
even one (`IsShortest`).  A double has one shortest decimal only (`IsShortest.eq`).  The search tries one
digit after the other from the first digit of the double on, and finds it (`isShortest_shortest`);
seventeen digits are always enough.
-/

namespace SignalLab.Decimal

open Double

/-! ## Multiples of a power of ten -/

variable {m : ℕ} {q p : ℤ} {c : ℕ} {v : ℚ}

/-- Whether a multiple of a power of ten is closest to a double among those that read back as it; of two
that are equally close the even one is. -/
structure IsClosest (p : ℤ) (v : ℚ) (c : ℕ) : Prop where
  reads : IsNearest (c * 10 ^ p) v
  closest : ∀ k : ℕ, IsNearest (k * 10 ^ p) v → |c * 10 ^ p - v| ≤ |k * 10 ^ p - v|
  even : ∀ k : ℕ, IsNearest (k * 10 ^ p) v → |k * 10 ^ p - v| = |c * 10 ^ p - v| → k = c ∨ Even c

/-- Powers of ten with and without a sign are multiplied. -/
theorem pow_mul_zpow (n : ℕ) (p : ℤ) : ((10 ^ n : ℕ) : ℚ) * 10 ^ p = 10 ^ (p + n) := by
  rw [Nat.cast_pow, Nat.cast_ofNat, ← zpow_natCast, ← zpow_add₀ (by norm_num), add_comm]

/-- The distance to a multiple of a power of ten, in units of it. -/
theorem distance_eq (k : ℕ) (p : ℤ) (v : ℚ) :
    |(k : ℚ) * 10 ^ p - v| = |(k : ℚ) - v * 10 ^ (-p)| * 10 ^ p := by
  have hpos : (0 : ℚ) < 10 ^ p := zpow_pos (by norm_num) p
  have hcancel : (10 : ℚ) ^ (-p) * 10 ^ p = 1 := by
    rw [← zpow_add₀ (by norm_num), neg_add_cancel, zpow_zero]
  rw [← abs_of_pos hpos, ← abs_mul, abs_of_pos hpos, sub_mul, mul_assoc v, hcancel, mul_one]

/-- The two multiples around a double, the nearer one first, are those that are tried. -/
theorem exists_neighbours (m : ℕ) (q p : ℤ) :
    ∃ near far : ℕ, IsHalfEven (m * 2 ^ q * 10 ^ (-p)) near ∧
      ((near ≤ (m * 2 ^ q * 10 ^ (-p) : ℚ) ∧ (m * 2 ^ q * 10 ^ (-p) : ℚ) < far ∧ far = near + 1) ∨
        (far ≤ (m * 2 ^ q * 10 ^ (-p) : ℚ) ∧ (m * 2 ^ q * 10 ^ (-p) : ℚ) < near ∧ near = far + 1)) ∧
      candidate? m q p = if readsBack m q near p then some near
        else if readsBack m q far p then some far else none := by
  have hden : 0 < twoTo (-q).toNat * tenTo p.toNat := Nat.mul_pos (Nat.two_pow_pos _) (tenTo_pos _)
  have hscaled : (m * 2 ^ q * 10 ^ (-p) : ℚ) =
      (m * twoTo q.toNat * tenTo (-p).toNat : ℕ) / (twoTo (-q).toNat * tenTo p.toNat : ℕ) := by
    rw [magnitude_eq_div, div_mul_zpow_ten, Int.neg_neg]
  rw [hscaled, candidate?]
  generalize m * twoTo q.toNat * tenTo (-p).toNat = num
  generalize twoTo (-q).toNat * tenTo p.toNat = den at hden
  have hpos : (0 : ℚ) < den := Nat.cast_pos.mpr hden
  have hbelow : ((num / den : ℕ) : ℚ) ≤ num / den := Nat.cast_div_le
  have habove : (num / den : ℚ) < (num / den + 1 : ℕ) := by
    rw [div_lt_iff₀ hpos, mul_comm]
    exact_mod_cast Nat.lt_mul_div_succ num hden
  -- rounding chooses one of the two
  have heither : roundHalfEven num den = num / den ∨ roundHalfEven num den = num / den + 1 := by
    rw [roundHalfEven]
    split
    · exact .inl rfl
    · split
      · exact .inr rfl
      · omega
  refine ⟨_, _, .roundHalfEven num hden, ?_, rfl⟩
  rcases heither with heq | heq
  · rw [heq, if_pos rfl]
    exact .inl ⟨hbelow, habove, rfl⟩
  · rw [heq, if_neg (Nat.succ_ne_self _)]
    exact .inr ⟨hbelow, habove, rfl⟩

section Candidates

variable (hnormal : IsNormal m q) (hm : 0 < m)
include hnormal hm

/-- If a multiple reads back, then so does one of the two around the double: the one on its side. -/
theorem isNearest_of_between {low k : ℕ} (hlow : (low : ℚ) ≤ m * 2 ^ q * 10 ^ (-p))
    (hup : (m * 2 ^ q * 10 ^ (-p) : ℚ) < (low + 1 : ℕ))
    (hk : IsNearest (k * 10 ^ p) (m * 2 ^ q)) :
    k ≤ low ∧ IsNearest (low * 10 ^ p) (m * 2 ^ q) ∨
      low + 1 ≤ k ∧ IsNearest ((low + 1 : ℕ) * 10 ^ p) (m * 2 ^ q) := by
  have hpos : (0 : ℚ) < 10 ^ p := zpow_pos (by norm_num) p
  rw [zpow_neg, ← div_eq_mul_inv, le_div_iff₀ hpos] at hlow
  rw [zpow_neg, ← div_eq_mul_inv, div_lt_iff₀ hpos] at hup
  have hself := isNearest_self hnormal hm
  rcases Nat.lt_or_ge low k with hlt | hle
  · have hmul : ((low + 1 : ℕ) : ℚ) * 10 ^ p ≤ k * 10 ^ p :=
      mul_le_mul_of_nonneg_right (Nat.cast_le.mpr hlt) hpos.le
    exact .inr ⟨hlt, hself.between hnormal hm hk ⟨hup.le, hmul⟩⟩
  · have hmul : (k : ℚ) * 10 ^ p ≤ low * 10 ^ p :=
      mul_le_mul_of_nonneg_right (Nat.cast_le.mpr hle) hpos.le
    exact .inl ⟨hle, hk.between hnormal hm hself ⟨hmul, hlow⟩⟩

/-- Without a candidate no multiple reads back. -/
theorem not_isNearest_of_candidate? (h : candidate? m q p = none) (k : ℕ) :
    ¬ IsNearest (k * 10 ^ p) (m * 2 ^ q) := by
  intro hk
  obtain ⟨near, far, -, hsides, hcandidate⟩ := exists_neighbours m q p
  rw [hcandidate] at h
  split at h
  · cases h
  rename_i hnear
  split at h
  · cases h
  rename_i hfar
  rw [readsBack_iff_mem_range, mem_range_iff hnormal hm] at hnear hfar
  rcases hsides with ⟨hlow, hup, rfl⟩ | ⟨hlow, hup, rfl⟩
  · rcases isNearest_of_between hnormal hm hlow hup hk with ⟨-, h⟩ | ⟨-, h⟩
    · exact hnear h
    · exact hfar h
  · rcases isNearest_of_between hnormal hm hlow hup hk with ⟨-, h⟩ | ⟨-, h⟩
    · exact hfar h
    · exact hnear h

/-- The candidate is the closest multiple. -/
theorem isClosest_of_candidate? (h : candidate? m q p = some c) :
    IsClosest p (m * 2 ^ q) c := by
  have hpos : (0 : ℚ) < 10 ^ p := zpow_pos (by norm_num) p
  obtain ⟨near, far, hnearest, hsides, hcandidate⟩ := exists_neighbours m q p
  rw [hcandidate] at h
  split at h
  · rename_i hnear
    cases h
    rw [readsBack_iff_mem_range, mem_range_iff hnormal hm] at hnear
    refine ⟨hnear, fun k _ => ?_, fun k _ htie => ?_⟩
    · rw [distance_eq, distance_eq]
      exact mul_le_mul_of_nonneg_right (hnearest.closest k).1 hpos.le
    · rw [distance_eq, distance_eq] at htie
      exact (hnearest.closest k).2 (mul_right_cancel₀ hpos.ne' htie)
  rename_i hnear
  split at h
  · -- the nearer one does not read back, and nothing on its side does
    rename_i hfar
    cases h
    rw [readsBack_iff_mem_range, mem_range_iff hnormal hm] at hnear hfar
    have hbeyond : ∀ k : ℕ, IsNearest (k * 10 ^ p) (m * 2 ^ q) → k ≠ c →
        |(c : ℚ) - m * 2 ^ q * 10 ^ (-p)| < |(k : ℚ) - m * 2 ^ q * 10 ^ (-p)| := by
      intro k hk hne
      rcases hsides with ⟨hlow, hup, rfl⟩ | ⟨hlow, hup, rfl⟩
      · rcases isNearest_of_between hnormal hm hlow hup hk with ⟨-, h⟩ | ⟨hle, -⟩
        · exact absurd h hnear
        · have hlt : ((near + 1 : ℕ) : ℚ) < k := Nat.cast_lt.mpr (Nat.lt_of_le_of_ne hle hne.symm)
          rw [abs_of_pos (by linarith), abs_of_pos (by linarith)]
          linarith
      · rcases isNearest_of_between hnormal hm hlow hup hk with ⟨hle, -⟩ | ⟨-, h⟩
        · have hlt : (k : ℚ) < c := Nat.cast_lt.mpr (Nat.lt_of_le_of_ne hle hne)
          rw [abs_of_nonpos (by linarith), abs_of_nonpos (by linarith)]
          linarith
        · exact absurd h hnear
    refine ⟨hfar, fun k hk => ?_, fun k hk htie => .inl ?_⟩
    · by_cases hne : k = c
      · rw [hne]
      · rw [distance_eq, distance_eq]
        exact (mul_lt_mul_of_pos_right (hbeyond k hk hne) hpos).le
    · by_contra hne
      rw [distance_eq, distance_eq] at htie
      exact (hbeyond k hk hne).ne' (mul_right_cancel₀ hpos.ne' htie)
  · cases h

end Candidates

/-! ## The shortest decimal -/

/-- The number that a decimal stands for. -/
def value (d : Decimal) : ℚ :=
  d.coefficient * 10 ^ d.exponent

/-- Whether a decimal with so many digits is the shortest one that reads back as a double. -/
structure IsShortest (v : ℚ) (count : ℕ) (d : Decimal) : Prop where
  full : 10 ^ (count - 1) ≤ d.coefficient ∧ d.coefficient < 10 ^ count
  reads : IsNearest d.value v
  fewest : ∀ d' : Decimal, IsNearest d'.value v → 10 ^ (count - 1) ≤ d'.coefficient
  closest : ∀ d' : Decimal, IsNearest d'.value v → d'.coefficient < 10 ^ count →
    |d.value - v| ≤ |d'.value - v|
  even : ∀ d' : Decimal, IsNearest d'.value v → d'.coefficient < 10 ^ count →
    |d'.value - v| = |d.value - v| → d'.value = d.value ∨ Even d.coefficient

namespace IsShortest

variable {count count' : ℕ} {d d' : Decimal}

theorem count_pos (h : IsShortest v count d) : 0 < count := by
  by_contra hzero
  obtain rfl : count = 0 := by omega
  obtain ⟨hlow, hup⟩ := h.full
  exact absurd (hlow.trans_lt hup) (Nat.lt_irrefl _)

theorem count_le (h : IsShortest v count d) (h' : IsShortest v count' d') : count ≤ count' := by
  have hlt : 10 ^ (count - 1) < 10 ^ count' := (h.fewest d' h'.reads).trans_lt h'.full.2
  have hpred := (Nat.pow_lt_pow_iff_right (by decide)).mp hlt
  omega

section Unique

variable (hnormal : IsNormal m q) (hm : 0 < m)
include hnormal hm

/-- Two shortest decimals would be as far from the double, and the numbers between them closer.  So they
would be neighbours, and not both even. -/
theorem not_value_lt (h : IsShortest (m * 2 ^ q) count d) (h' : IsShortest (m * 2 ^ q) count d') :
    ¬ d.value < d'.value := by
  intro hlt
  have hdistance : |d.value - m * 2 ^ q| = |d'.value - m * 2 ^ q| :=
    le_antisymm (h.closest d' h'.reads h'.full.2) (h'.closest d h.reads h.full.2)
  have hmiddle : d.value + d'.value = 2 * (m * 2 ^ q) := by
    rcases abs_eq_abs.mp hdistance with heq | heq <;> linarith
  have heven := (h.even d' h'.reads h'.full.2 hdistance.symm).resolve_left hlt.ne'
  have heven' := (h'.even d h.reads h.full.2 hdistance).resolve_left hlt.ne
  have hpos : (0 : ℚ) < 10 ^ d.exponent := zpow_pos (by norm_num) _
  have hexponent := IsRounded.exponent_le h.count_pos h.full.1 h'.full.2 hlt.le
  obtain ⟨i, hi⟩ : ∃ i : ℕ, d'.exponent = d.exponent + i :=
    ⟨(d'.exponent - d.exponent).toNat, by omega⟩
  have hvalue' : d'.value = (d'.coefficient * 10 ^ i : ℕ) * 10 ^ d.exponent := by
    rw [value, hi, zpow_add₀ (by norm_num), zpow_natCast]
    push_cast
    ring
  have hnext : d.coefficient + 1 ≤ d'.coefficient * 10 ^ i := by
    rw [hvalue', value, mul_lt_mul_iff_left₀ hpos, Nat.cast_lt] at hlt
    exact hlt
  rcases Nat.eq_or_lt_of_le hnext with heq | hless
  · have hodd := heven'.mul_right (10 ^ i)
    rw [← heq, Nat.even_add_one] at hodd
    exact hodd heven
  · -- the multiple behind the smaller one has no more digits
    have hbetween : d.value < (d.coefficient + 1 : ℕ) * 10 ^ d.exponent ∧
        ((d.coefficient + 1 : ℕ) : ℚ) * 10 ^ d.exponent < d'.value := by
      rw [hvalue', value, mul_lt_mul_iff_left₀ hpos, mul_lt_mul_iff_left₀ hpos, Nat.cast_lt,
        Nat.cast_lt]
      exact ⟨Nat.lt_succ_self _, hless⟩
    have hreads := h.reads.between hnormal hm h'.reads ⟨hbetween.1.le, hbetween.2.le⟩
    have hcloser : |((d.coefficient + 1 : ℕ) : ℚ) * 10 ^ d.exponent - m * 2 ^ q| <
        |d.value - m * 2 ^ q| := by
      rw [abs_of_neg (by linarith : d.value - m * 2 ^ q < 0), abs_lt]
      constructor <;> linarith
    rcases Nat.eq_or_lt_of_le h.full.2 with heq | hfits
    · -- it is a power of ten
      have hone : value ⟨1, d.exponent + count⟩ = (d.coefficient + 1 : ℕ) * 10 ^ d.exponent := by
        rw [value, ← Nat.succ_eq_add_one, heq, pow_mul_zpow, Nat.cast_one, one_mul]
      rw [← hone] at hreads hcloser
      have hdigits : (⟨1, d.exponent + count⟩ : Decimal).coefficient < 10 ^ count :=
        Nat.one_lt_pow h.count_pos.ne' (by decide)
      exact (h.closest _ hreads hdigits).not_gt hcloser
    · exact (h.closest ⟨d.coefficient + 1, d.exponent⟩ hreads hfits).not_gt hcloser

/-- A double has one shortest decimal at most. -/
theorem eq (h : IsShortest (m * 2 ^ q) count d) (h' : IsShortest (m * 2 ^ q) count' d') :
    count = count' ∧ d = d' := by
  obtain rfl : count = count' := Nat.le_antisymm (h.count_le h') (h'.count_le h)
  have hvalue : d.value = d'.value :=
    le_antisymm (not_lt.mp (h'.not_value_lt hnormal hm h)) (not_lt.mp (h.not_value_lt hnormal hm h'))
  have hexponent : d.exponent = d'.exponent :=
    Int.le_antisymm (IsRounded.exponent_le h.count_pos h.full.1 h'.full.2 hvalue.le)
      (IsRounded.exponent_le h.count_pos h'.full.1 h.full.2 hvalue.ge)
  rw [value, value, hexponent] at hvalue
  have hcoefficient := mul_right_cancel₀ (zpow_ne_zero d'.exponent (by norm_num : (10 : ℚ) ≠ 0)) hvalue
  obtain ⟨coefficient, exponent⟩ := d
  obtain ⟨coefficient', exponent'⟩ := d'
  cases hexponent
  cases Nat.cast_injective hcoefficient
  exact ⟨rfl, rfl⟩

end Unique

/-- The last digit of a shortest decimal is not zero. -/
theorem not_dvd (h : IsShortest v count d) : ¬ 10 ∣ d.coefficient := by
  rintro ⟨c, hc⟩
  have hvalue : value ⟨c, d.exponent + 1⟩ = d.value := by
    rw [value, value, hc, zpow_add_one₀ (by norm_num)]
    push_cast
    ring
  have hfewer := h.fewest ⟨c, d.exponent + 1⟩ (hvalue ▸ h.reads)
  obtain ⟨k, rfl⟩ : ∃ k, count = k + 1 := Nat.exists_eq_add_one.mpr h.count_pos
  have hup := h.full.2
  rw [hc, Nat.pow_succ, Nat.mul_comm, Nat.mul_lt_mul_right (by decide)] at hup
  exact absurd hup (Nat.not_lt.mpr hfewer)

end IsShortest

/-! ## The search -/

section Search

variable (hnormal : IsNormal m q) (hm : 0 < m)
include hnormal hm

/-- Seventeen digits are enough: half a unit of the last of them is less than the gaps between doubles. -/
theorem exists_isNearest_seventeen :
    ∃ k : ℕ, IsNearest (k * 10 ^ (Int.log 10 ((m : ℚ) * 2 ^ q) - 16)) (m * 2 ^ q) := by
  have hpos : (0 : ℚ) < 2 ^ (q - 2) := zpow_pos two_pos _
  obtain ⟨hunit, -⟩ := quarters q
  have hvalue : (0 : ℚ) < m * 2 ^ q := multiple_pos hm
  obtain ⟨p, hp⟩ : ∃ p, p = Int.log 10 ((m : ℚ) * 2 ^ q) - 16 := ⟨_, rfl⟩
  have hplace : (10 : ℚ) ^ p * 10 ^ 16 ≤ m * 2 ^ q := by
    have hlog := (log_bounds hvalue).1
    rwa [← sub_add_cancel (Int.log 10 ((m : ℚ) * 2 ^ q)) 16, ← hp, zpow_add₀ (by norm_num)] at hlog
  rw [← hp]
  obtain ⟨k, -, hnearest, -, -⟩ := exists_neighbours m q p
  have hdistance : |(k : ℚ) * 10 ^ p - m * 2 ^ q| ≤ 1 / 2 * 10 ^ p := by
    rw [distance_eq]
    exact mul_le_mul_of_nonneg_right hnearest.near (zpow_nonneg (by norm_num) p)
  refine ⟨k, (mem_range_iff hnormal hm).mp (mem_range_of_abs_lt hm (hdistance.trans_lt ?_))⟩
  rw [hunit] at hplace
  generalize (2 : ℚ) ^ (q - 2) = unit at hpos hplace ⊢
  rw [lowGap]
  split
  · rename_i hpower
    rw [hpower.1] at hplace
    push_cast at hplace ⊢
    linarith
  · have hlt : (m : ℚ) < 2 ^ 53 := by exact_mod_cast hnormal.lt
    have hmul : (m : ℚ) * unit < 2 ^ 53 * unit := mul_lt_mul_of_pos_right hlt hpos
    push_cast
    linarith

/-- The search ends at the first number of digits with a candidate. -/
theorem exists_candidate : ∃ n c,
    candidate? m q (Int.log 10 ((m : ℚ) * 2 ^ q) - (n : ℕ)) = some c ∧
    (∀ i < n, candidate? m q (Int.log 10 ((m : ℚ) * 2 ^ q) - (i : ℕ)) = none) ∧
    shortest m q = ⟨c, Int.log 10 ((m : ℚ) * 2 ^ q) - n⟩ := by
  have hmagnitude : magnitude (m * twoTo q.toNat) (twoTo (-q).toNat) =
      Int.log 10 ((m : ℚ) * 2 ^ q) := by
    have hnum : m * twoTo q.toNat ≠ 0 := (Nat.mul_pos hm (Nat.two_pow_pos _)).ne'
    have hden : twoTo (-q).toNat ≠ 0 := (Nat.two_pow_pos _).ne'
    rw [magnitude_eq hnum hden, magnitude_eq_div]
  have hsome : ((List.range 17).findSome? fun (n : ℕ) =>
      (candidate? m q (Int.log 10 ((m : ℚ) * 2 ^ q) - n)).map fun c =>
        (⟨c, Int.log 10 ((m : ℚ) * 2 ^ q) - n⟩ : Decimal)) ≠ none := by
    rw [Ne, List.findSome?_eq_none_iff]
    intro hnone
    obtain ⟨k, hk⟩ := exists_isNearest_seventeen hnormal hm
    have hsixteen := Option.map_eq_none_iff.mp (hnone 16 (by decide))
    exact not_isNearest_of_candidate? hnormal hm hsixteen k hk
  obtain ⟨d, hd⟩ := Option.ne_none_iff_exists'.mp hsome
  obtain ⟨before, n, behind, hrange, hfound, hbefore⟩ := List.findSome?_eq_some_iff.mp hd
  obtain ⟨c, hc, rfl⟩ := Option.map_eq_some_iff.mp hfound
  refine ⟨n, c, hc, fun i hi => ?_, ?_⟩
  · rw [List.range_eq_range', List.range'_eq_append_iff] at hrange
    obtain ⟨k, -, rfl, hcons⟩ := hrange
    obtain ⟨hk, -, -⟩ := List.range'_eq_cons_iff.mp hcons.symm
    have hmem : i ∈ List.range' 0 k := List.mem_range'_1.mpr (by omega)
    exact Option.map_eq_none_iff.mp (hbefore i hmem)
  · rw [shortest, hmagnitude]
    exact congrArg (fun found => found.getD ⟨0, 0⟩) hd

/-- A decimal of some digits that reads back leads to a multiple of the last place of these, counted from
the first digit of the double: the decimal is one, or a power of ten is closer. -/
theorem exists_multiple_or_closer {d : Decimal} {n : ℕ} (hreads : IsNearest d.value (m * 2 ^ q))
    (hdigits : d.coefficient < 10 ^ (n + 1)) :
    ∃ k : ℕ, IsNearest (k * 10 ^ (Int.log 10 ((m : ℚ) * 2 ^ q) - n)) (m * 2 ^ q) ∧
      ((k : ℚ) * 10 ^ (Int.log 10 ((m : ℚ) * 2 ^ q) - n) = d.value ∨
        |(k : ℚ) * 10 ^ (Int.log 10 ((m : ℚ) * 2 ^ q) - n) - m * 2 ^ q| < |d.value - m * 2 ^ q|) := by
  have hten : (10 : ℚ) ≠ 0 := by norm_num
  have hvalue : (0 : ℚ) < m * 2 ^ q := multiple_pos hm
  have hlog := (log_bounds hvalue).1
  generalize Int.log 10 ((m : ℚ) * 2 ^ q) = log at hlog ⊢
  -- a decimal below the first digit of the double is below a power of ten that is closer
  rcases le_or_gt ((10 : ℚ) ^ log) d.value with hle | hlt
  · have hexponent : log - n ≤ d.exponent := by
      have hless : (10 : ℚ) ^ log < 10 ^ ((n + 1 : ℕ) + d.exponent) := by
        refine hle.trans_lt ?_
        rw [value, zpow_add₀ hten, zpow_natCast]
        exact mul_lt_mul_of_pos_right (by exact_mod_cast hdigits) (zpow_pos (by norm_num) _)
      have hexponents := (zpow_lt_zpow_iff_right₀ (by norm_num : (1 : ℚ) < 10)).mp hless
      omega
    have hmultiple : ((d.coefficient * 10 ^ (d.exponent - (log - n)).toNat : ℕ) : ℚ) *
        10 ^ (log - n) = d.value := by
      have hsplit : d.exponent = (d.exponent - (log - n)).toNat + (log - n) := by omega
      conv_rhs => rw [value, hsplit]
      rw [zpow_add₀ hten, zpow_natCast, Nat.cast_mul, Nat.cast_pow, Nat.cast_ofNat, mul_assoc]
    exact ⟨_, hmultiple ▸ hreads, .inl hmultiple⟩
  · have hpower : ((10 ^ n : ℕ) : ℚ) * 10 ^ (log - n) = 10 ^ log := by
      rw [pow_mul_zpow, sub_add_cancel]
    refine ⟨10 ^ n, ?_, .inr ?_⟩
    · rw [hpower]
      exact hreads.between hnormal hm (isNearest_self hnormal hm) ⟨hlt.le, hlog⟩
    · rw [hpower, abs_of_nonpos (by linarith), abs_of_nonpos (by linarith)]
      linarith

/-- No double lies halfway between the nine and the ten that read back as it: its mantissa would be a
multiple of nineteen, and the decimals would be more than half a unit away. -/
theorem not_isNearest_nine (hmiddle : 2 * ((m : ℚ) * 2 ^ q) = 19 * 10 ^ p) :
    ¬ IsNearest (9 * 10 ^ p) ((m : ℚ) * 2 ^ q) := by
  intro hreads
  obtain ⟨⟨hlow, -⟩, -⟩ := (mem_range_iff_bounds hm).mp ((mem_range_iff hnormal hm).mpr hreads)
  obtain ⟨hunit, -⟩ := quarters q
  have hpos : (0 : ℚ) < 2 ^ (q - 2) := zpow_pos two_pos _
  obtain ⟨-, hgap⟩ := lowGap_bounds m q
  have hsmall : m ≤ 9 := by
    rw [hunit] at hmiddle
    have hle : (m : ℚ) * 2 ^ (q - 2) ≤ 19 / 2 * 2 ^ (q - 2) := by linarith
    have hcast : (m : ℚ) < 10 := by linarith [le_of_mul_le_mul_right hle hpos]
    exact Nat.le_of_lt_succ (by exact_mod_cast hcast)
  have hdvd : 19 ∣ m := by
    have hprime : Nat.Prime 19 := by norm_num
    have htwo : ((twoTo (-q).toNat : ℕ) : ℚ) ≠ 0 := Nat.cast_ne_zero.mpr (Nat.two_pow_pos _).ne'
    have hten : ((tenTo (-p).toNat : ℕ) : ℚ) ≠ 0 := Nat.cast_ne_zero.mpr (tenTo_pos _).ne'
    rw [magnitude_eq_div, zpow_ten_eq_div, ← mul_div_assoc, ← mul_div_assoc,
      div_eq_div_iff htwo hten] at hmiddle
    have hcast : 2 * (m * twoTo q.toNat) * tenTo (-p).toNat =
        19 * tenTo p.toNat * twoTo (-q).toNat := by exact_mod_cast hmiddle
    have hproduct : 19 ∣ 2 * (m * twoTo q.toNat) * tenTo (-p).toNat := by
      rw [hcast, Nat.mul_assoc]
      exact Nat.dvd_mul_right _ _
    have htwos : ¬ 19 ∣ twoTo q.toNat := fun h =>
      absurd (hprime.dvd_of_dvd_pow h) (by decide)
    have htens : ¬ 19 ∣ tenTo (-p).toNat := fun h =>
      absurd (hprime.dvd_of_dvd_pow h) (by decide)
    rw [hprime.dvd_mul, hprime.dvd_mul, hprime.dvd_mul] at hproduct
    rcases hproduct with (h | h | h) | h
    · exact absurd h (by decide)
    · exact h
    · exact absurd h htwos
    · exact absurd h htens
  have hlarge := Nat.le_of_dvd hm hdvd
  omega

section Found

variable {n : ℕ} {log : ℤ} (hlog : log = Int.log 10 ((m : ℚ) * 2 ^ q))
include hlog

/-- A decimal of fewer digits does not read back if no multiple of the places before does. -/
theorem le_coefficient_of_first {d : Decimal} (hreads : IsNearest d.value (m * 2 ^ q))
    (hfirst : ∀ i < n, ∀ k : ℕ, ¬ IsNearest (k * 10 ^ (log - (i : ℕ))) (m * 2 ^ q)) :
    10 ^ n ≤ d.coefficient := by
  have hvalue : (0 : ℚ) < m * 2 ^ q := multiple_pos hm
  by_contra hless
  cases n with
  | zero =>
      -- zero does not read back
      have hzero : d.value = 0 := by
        rw [value, Nat.lt_one_iff.mp (Nat.not_le.mp hless), Nat.cast_zero, zero_mul]
      have hfits : Fits |(0 : ℚ)| := by simpa using fits_natCast (Nat.zero_le _)
      rw [hzero] at hreads
      exact hvalue.ne' (hreads.eq_of_fits hfits)
  | succ i =>
      obtain ⟨k, hk, -⟩ := exists_multiple_or_closer hnormal hm hreads (Nat.not_le.mp hless)
      rw [← hlog] at hk
      exact hfirst i (Nat.lt_succ_self i) k hk

variable (hclosest : IsClosest (log - n) (m * 2 ^ q) c)
include hclosest

/-- The closest multiple of a place is closest among all decimals with digits up to this place; another
one that is as close is a multiple too. -/
theorem closest_of_isClosest {d : Decimal} (hreads : IsNearest d.value (m * 2 ^ q))
    (hdigits : d.coefficient < 10 ^ (n + 1)) :
    |(c : ℚ) * 10 ^ (log - n) - m * 2 ^ q| ≤ |d.value - m * 2 ^ q| ∧
      (|d.value - m * 2 ^ q| = |(c : ℚ) * 10 ^ (log - n) - m * 2 ^ q| →
        ∃ k : ℕ, (k : ℚ) * 10 ^ (log - n) = d.value ∧ (k = c ∨ Even c)) := by
  obtain ⟨k, hk, heither⟩ := exists_multiple_or_closer hnormal hm hreads hdigits
  rw [← hlog] at hk heither
  have hle := hclosest.closest k hk
  rcases heither with heq | hcloser
  · refine ⟨heq ▸ hle, fun htie => ⟨k, heq, hclosest.even k hk ?_⟩⟩
    rw [heq, htie]
  · exact ⟨(hle.trans_lt hcloser).le, fun htie => absurd htie (hle.trans_lt hcloser).ne'⟩

/-- The closest multiple has as many digits as asked for, or it is the power of ten behind them. -/
theorem coefficient_le_of_isClosest : c ≤ 10 ^ (n + 1) := by
  have hvalue : (0 : ℚ) < m * 2 ^ q := multiple_pos hm
  have hup := (log_bounds hvalue).2
  rw [← hlog] at hup
  by_contra hlarge
  have hpower : ((10 ^ (n + 1) : ℕ) : ℚ) * 10 ^ (log - n) = 10 ^ (log + 1) := by
    rw [pow_mul_zpow]
    congr 1
    omega
  have hless : ((10 ^ (n + 1) : ℕ) : ℚ) * 10 ^ (log - n) < c * 10 ^ (log - n) :=
    mul_lt_mul_of_pos_right (Nat.cast_lt.mpr (Nat.not_le.mp hlarge)) (zpow_pos (by norm_num) _)
  rw [hpower] at hless
  have hreads := (isNearest_self hnormal hm).between hnormal hm hclosest.reads ⟨hup.le, hless.le⟩
  rw [← hpower] at hreads
  have hle := hclosest.closest _ hreads
  rw [hpower, abs_of_nonneg (by linarith), abs_of_nonneg (by linarith)] at hle
  linarith

end Found

/-- Ten in the place of the first digit is the shortest decimal, as a one in the place before. -/
theorem isShortest_one {log : ℤ} (hlog : log = Int.log 10 ((m : ℚ) * 2 ^ q))
    (hclosest : IsClosest (log - (0 : ℕ)) (m * 2 ^ q) 10) :
    IsShortest (m * 2 ^ q) 1 ⟨1, log + 1⟩ := by
  have hvalue : (0 : ℚ) < m * 2 ^ q := multiple_pos hm
  have hup := (log_bounds hvalue).2
  have hten : value ⟨1, log + 1⟩ = (10 : ℕ) * 10 ^ (log - (0 : ℕ)) := by
    rw [value, zpow_add_one₀ (by norm_num), Nat.cast_one, one_mul, mul_comm, Nat.cast_zero, sub_zero,
      Nat.cast_ofNat]
  rw [← hlog, zpow_add_one₀ (by norm_num)] at hup
  refine ⟨⟨Nat.le_refl _, (by decide : 1 < 10 ^ 1)⟩, hten ▸ hclosest.reads, fun d hreads => ?_,
    fun d hreads hd => ?_, fun d hreads hd htie => .inl ?_⟩
  · exact le_coefficient_of_first hnormal hm hlog hreads fun i hi => absurd hi (Nat.not_lt_zero i)
  · rw [hten]
    exact (closest_of_isClosest hnormal hm hlog hclosest hreads hd).1
  · rw [hten] at htie ⊢
    obtain ⟨k, heq, -⟩ := (closest_of_isClosest hnormal hm hlog hclosest hreads hd).2 htie
    rw [← heq] at htie hreads ⊢
    rw [Nat.cast_zero, sub_zero] at htie hreads ⊢
    have hpos : (0 : ℚ) < 10 ^ log := zpow_pos (by norm_num) _
    rcases abs_eq_abs.mp htie with hsame | hopposite
    · linarith
    · exfalso
      rw [Nat.cast_ofNat] at hopposite
      have hk : k ≤ 9 := by
        have hless : (k : ℚ) * 10 ^ log < 10 * 10 ^ log := by linarith
        exact Nat.le_of_lt_succ (by exact_mod_cast (mul_lt_mul_iff_left₀ hpos).mp hless)
      rcases Nat.eq_or_lt_of_le hk with rfl | hk
      · rw [Nat.cast_ofNat] at hopposite hreads
        exact not_isNearest_nine hnormal hm (by linarith) hreads
      · -- below nine, nine would be closer
        have hle : (k : ℚ) * 10 ^ log ≤ 8 * 10 ^ log :=
          mul_le_mul_of_nonneg_right (by exact_mod_cast Nat.le_of_lt_succ hk) hpos.le
        have hnine : IsNearest ((9 : ℕ) * 10 ^ (log - (0 : ℕ))) ((m : ℚ) * 2 ^ q) := by
          refine (isNearest_self hnormal hm).between hnormal hm hclosest.reads ⟨?_, ?_⟩ <;>
            (rw [Nat.cast_zero, sub_zero]; push_cast; linarith)
        have hcloser := hclosest.closest 9 hnine
        rw [Nat.cast_zero, sub_zero, Nat.cast_ofNat, Nat.cast_ofNat, abs_of_pos (by linarith),
          abs_of_nonneg (by linarith)] at hcloser
        linarith

/-- What the search finds first is shortest. -/
theorem isShortest_of_isClosest {n : ℕ} {log : ℤ} (hlog : log = Int.log 10 ((m : ℚ) * 2 ^ q))
    (hclosest : IsClosest (log - n) (m * 2 ^ q) c)
    (hfirst : ∀ i < n, ∀ k : ℕ, ¬ IsNearest (k * 10 ^ (log - (i : ℕ))) (m * 2 ^ q)) :
    IsShortest (m * 2 ^ q) (n + 1) ⟨c, log - n⟩ ∨
      c = 10 ∧ n = 0 ∧ IsShortest (m * 2 ^ q) 1 ⟨1, log + 1⟩ := by
  rcases Nat.eq_or_lt_of_le (coefficient_le_of_isClosest hnormal hm hlog hclosest) with hcarry | hdigits
  · -- a power of ten would have been found at the first digit
    cases n with
    | zero =>
        rw [Nat.zero_add, Nat.pow_one] at hcarry
        subst hcarry
        exact .inr ⟨rfl, rfl, isShortest_one hnormal hm hlog hclosest⟩
    | succ i =>
        have hpower : ((10 ^ (i + 1) : ℕ) : ℚ) * 10 ^ (log - i) = c * 10 ^ (log - (i + 1 : ℕ)) := by
          rw [hcarry, pow_mul_zpow, pow_mul_zpow]
          congr 1
          omega
        exact absurd (hpower ▸ hclosest.reads) (hfirst i (Nat.lt_succ_self i) (10 ^ (i + 1)))
  · refine .inl ⟨⟨?_, hdigits⟩, hclosest.reads, fun d hreads => ?_, fun d hreads hd => ?_,
      fun d hreads hd htie => ?_⟩
    · exact le_coefficient_of_first hnormal hm hlog (d := ⟨c, log - n⟩) hclosest.reads hfirst
    · exact le_coefficient_of_first hnormal hm hlog hreads hfirst
    · exact (closest_of_isClosest hnormal hm hlog hclosest hreads hd).1
    · obtain ⟨k, heq, hk⟩ := (closest_of_isClosest hnormal hm hlog hclosest hreads hd).2 htie
      exact hk.imp_left fun h => by rw [← heq, h, value]

/-- The search finds the shortest decimal, or ten for one. -/
theorem isShortest_shortest :
    (∃ count, IsShortest (m * 2 ^ q) count (shortest m q)) ∨
      ∃ e, shortest m q = ⟨10, e⟩ ∧ IsShortest (m * 2 ^ q) 1 ⟨1, e + 1⟩ := by
  obtain ⟨n, c, hfound, hbefore, hshortest⟩ := exists_candidate hnormal hm
  have hclosest := isClosest_of_candidate? hnormal hm hfound
  have hfirst := fun i hi => not_isNearest_of_candidate? hnormal hm (hbefore i hi)
  rw [hshortest]
  rcases isShortest_of_isClosest hnormal hm rfl hclosest hfirst with h | ⟨rfl, rfl, h⟩
  · exact .inl ⟨n + 1, h⟩
  · exact .inr ⟨_, rfl, by rwa [Nat.cast_zero, sub_zero]⟩

end Search

end SignalLab.Decimal
