import SignalLab.Proofs.Number.DoubleOrder
import SignalLab.Proofs.Number.Patterns

/-!
# Values — the numbers that finite doubles stand for

A finite double stands for the rational number that its parts make (`Double.value?`).  Its mantissa
has 53 binary digits, or fewer at the least exponent, so of two doubles with different exponents the
one with the greater exponent has the greater magnitude.  Doubles therefore compare as the numbers
they stand for (`Double.lt_iff_value`, `Double.le_iff_value`), and rounding up a double is rounding
up its number (`Double.toInteger_up`).
-/

namespace SignalLab.Double

open Float.Model Float.Model.UnpackedFloat

/-! ## Parts -/

/-- The parts of an unpacked double. -/
def unpackedParts : UnpackedFloat → Parts
  | .notANumber => .nan
  | .infinity s => .infinite (s == .negative)
  | .zero s => .finite (s == .negative) 0 (-1074)
  | .finite s m e _ => .finite (s == .negative) m e

section Fields

variable (b : BitVec Format.binary64.numBits)

/-- The sign is the highest bit. -/
theorem unpackSign_eq_negative :
    (Sign.ofBitVec (unpackSign b) == .negative) = (b.toNat / twoTo 63 == 1) := by
  have hlt : b.toNat < 2 ^ 64 := b.isLt
  have hsign : (unpackSign b).toNat = b.toNat / 2 ^ 63 := by
    simp [unpackSign, BitVec.extractLsb_toNat, Nat.shiftRight_eq_div_pow]
    omega
  have hzero : unpackSign b = 0#1 ↔ b.toNat / 2 ^ 63 = 0 := by
    rw [← BitVec.toNat_inj, hsign]
    rfl
  show _ = (b.toNat / 2 ^ 63 == 1)
  rw [Sign.ofBitVec]
  by_cases h : b.toNat / 2 ^ 63 = 0
  · rw [if_pos (hzero.mpr h), h]
    rfl
  · have hone : b.toNat / 2 ^ 63 = 1 := by omega
    rw [if_neg (mt hzero.mp h), hone]
    rfl

/-- The leading digit of a full mantissa is written in front of the others. -/
theorem toNat_fullMantissa :
    (1#1 ++ unpackMantissa b).toNat = twoTo 52 + b.toNat % twoTo 52 := by
  have hlt : b.toNat % twoTo 52 < twoTo 52 := Nat.mod_lt _ (Nat.two_pow_pos 52)
  rw [BitVec.toNat_append, toNat_unpackMantissa]
  show 1 <<< 52 ||| b.toNat % twoTo 52 = twoTo 52 + b.toNat % twoTo 52
  rw [← Nat.shiftLeft_add_eq_or_of_lt hlt]
  rfl

end Fields

/-- A double is taken apart by its parts as it is by unpacking. -/
theorem parts_eq_unpackedParts (x : Float) : parts x = unpackedParts x.toModel.unpack := by
  obtain ⟨b, hb⟩ : ∃ b : BitVec Format.binary64.numBits, x.toBits.toBitVec = b := ⟨_, rfl⟩
  have hbits : x.toBits.toNat = b.toNat := congrArg BitVec.toNat hb
  have hones : unpackExponent b = -1#_ ↔ b.toNat / twoTo 52 % 2048 = 2047 := by
    rw [← BitVec.toNat_inj, toNat_unpackExponent]
    rfl
  have hzeros : unpackExponent b = 0#_ ↔ b.toNat / twoTo 52 % 2048 = 0 := by
    rw [← BitVec.toNat_inj, toNat_unpackExponent]
    rfl
  have hempty : unpackMantissa b = 0#_ ↔ b.toNat % twoTo 52 = 0 := by
    rw [← BitVec.toNat_inj, toNat_unpackMantissa]
    rfl
  have hunpack : x.toModel.unpack = UnpackedFloat.unpack Format.binary64 b :=
    congrArg (UnpackedFloat.unpack Format.binary64) hb
  rw [hunpack, UnpackedFloat.unpack, parts, hbits]
  dsimp only
  simp only [hones, hzeros, hempty]
  -- the fields are tested alike on both sides
  split
  · split
    · rw [unpackedParts, unpackSign_eq_negative]
    · rfl
  · split
    · rename_i hleast
      split
      · rename_i hzero
        rw [unpackedParts, unpackSign_eq_negative, hzero]
      · rw [unpackedParts, unpackSign_eq_negative, toNat_unpackMantissa, toNat_unpackExponent,
          hleast]
        rfl
    · rw [unpackedParts, unpackSign_eq_negative, toNat_fullMantissa, toNat_unpackExponent]
      rfl

/-! ## Values -/

/-- The number that a sign, a mantissa and an exponent stand for. -/
def signed (negative : Bool) (m : Nat) (q : Int) : ℚ :=
  (if negative then -1 else 1) * (m * 2 ^ q)

/-- The number that a finite double stands for. -/
def value? (x : Float) : Option ℚ :=
  match parts x with
  | .finite negative m q => some (signed negative m q)
  | _ => none

/-- The value of a finite double, from its parts. -/
theorem value?_eq_some_iff {x : Float} {v : ℚ} :
    value? x = some v ↔ ∃ negative m q, parts x = .finite negative m q ∧ signed negative m q = v := by
  rw [value?]
  cases parts x with
  | finite negative m q =>
      constructor
      · intro h
        exact ⟨negative, m, q, rfl, Option.some.inj h⟩
      · rintro ⟨negative', m', q', h, rfl⟩
        cases h
        rfl
  | infinite negative => simp
  | nan => simp

/-- A mantissa and an exponent as finite doubles have them: of 53 binary digits, or of fewer at the
least exponent. -/
structure IsNormal (m : Nat) (q : Int) : Prop where
  lt : m < 2 ^ 53
  full : 2 ^ 52 ≤ m ∧ -1074 ≤ q ∨ q = -1074

/-- The parts of a double are its only ones. -/
theorem isNormal_of_parts {x : Float} {negative : Bool} {m : Nat} {q : Int}
    (h : parts x = .finite negative m q) : IsNormal m q := by
  have hfraction : x.toBits.toNat % twoTo 52 < 2 ^ 52 := Nat.mod_lt _ (Nat.two_pow_pos 52)
  have hfull : twoTo 52 = 2 ^ 52 := rfl
  rw [parts] at h
  split at h
  · split at h <;> cases h
  · split at h
    · cases h
      exact ⟨by omega, .inr rfl⟩
    · cases h
      exact ⟨by omega, .inl ⟨by omega, by omega⟩⟩

/-- Of two magnitudes with different exponents the one with the greater exponent is greater. -/
theorem magnitude_lt {m m' : Nat} {q q' : Int} (hm : IsNormal m q) (hm' : IsNormal m' q')
    (h : q < q' ∨ q = q' ∧ m < m') : (m : ℚ) * 2 ^ q < m' * 2 ^ q' := by
  rcases h with hq | ⟨rfl, hlt⟩
  · have hfull : 2 ^ 52 ≤ m' := by
      rcases hm'.full with ⟨hfull, -⟩ | rfl
      · exact hfull
      · rcases hm.full with ⟨-, hleast⟩ | rfl <;> omega
    have hlt : (m : ℚ) < 2 ^ 53 := by exact_mod_cast hm.lt
    have hle : (2 : ℚ) ^ 52 ≤ m' := by exact_mod_cast hfull
    have hpow : (2 : ℚ) ^ (q + 1) ≤ 2 ^ q' := zpow_le_zpow_right₀ one_le_two hq
    calc (m : ℚ) * 2 ^ q
        < 2 ^ 53 * 2 ^ q := mul_lt_mul_of_pos_right hlt (zpow_pos two_pos q)
      _ = 2 ^ 52 * 2 ^ (q + 1) := by rw [zpow_add_one₀ two_ne_zero]; ring
      _ ≤ m' * 2 ^ q' := mul_le_mul hle hpow (zpow_nonneg zero_le_two _) (Nat.cast_nonneg m')
  · exact mul_lt_mul_of_pos_right (Nat.cast_lt.mpr hlt) (zpow_pos two_pos q)

/-! ## Order -/

/-- The place of a finite double. -/
def finitePlace (negative : Bool) (m : Nat) (q : Int) : Place :=
  if m = 0 then toLex (0, toLex (0, 0))
  else if negative then toLex (-1, toLex (-q, -m))
  else toLex (1, toLex (q, m))

/-- A finite double is placed by its sign, its exponent and its mantissa. -/
theorem place?_of_parts {x : Float} {negative : Bool} {m : Nat} {q : Int}
    (h : parts x = .finite negative m q) : place? x = some (finitePlace negative m q) := by
  rw [parts_eq_unpackedParts] at h
  rw [place?]
  cases hx : x.toModel.unpack with
  | notANumber =>
      rw [hx] at h
      cases h
  | infinity s =>
      rw [hx] at h
      cases h
  | zero s =>
      rw [hx] at h
      cases h
      rfl
  | finite s m' q' hpos =>
      rw [hx] at h
      cases h
      rw [finitePlace, if_neg (by omega)]
      cases s <;> rfl

/-- A greater place belongs to a greater number. -/
theorem signed_lt_of_place_lt {s s' : Bool} {m m' : Nat} {q q' : Int} (hm : IsNormal m q)
    (hm' : IsNormal m' q') (h : finitePlace s m q < finitePlace s' m' q') :
    signed s m q < signed s' m' q' := by
  have hpos : ∀ {m : Nat} (q : Int), m ≠ 0 → (0 : ℚ) < m * 2 ^ q := fun q hm =>
    mul_pos (Nat.cast_pos.mpr (Nat.pos_of_ne_zero hm)) (zpow_pos two_pos q)
  rw [finitePlace, finitePlace] at h
  rw [signed, signed]
  -- on either side a zero, or one of the two signs; seven pairs of places are in this order
  by_cases hzero : m = 0 <;> by_cases hzero' : m' = 0 <;> cases s <;> cases s' <;>
    simp [hzero, hzero', Prod.Lex.toLex_lt_toLex] at h ⊢
  · exact hpos q' hzero'
  · exact hpos q' hzero'
  · exact hpos q hzero
  · exact hpos q hzero
  · exact magnitude_lt hm hm' h
  · exact (neg_lt_zero.mpr (hpos q hzero)).trans (hpos q' hzero')
  · exact magnitude_lt hm' hm (h.imp_right fun ⟨hq, hlt⟩ => ⟨hq.symm, hlt⟩)

/-- Doubles of one place have one value. -/
theorem signed_eq_of_place_eq {s s' : Bool} {m m' : Nat} {q q' : Int}
    (h : finitePlace s m q = finitePlace s' m' q') : signed s m q = signed s' m' q' := by
  rw [finitePlace, finitePlace] at h
  rw [signed, signed]
  by_cases hzero : m = 0 <;> by_cases hzero' : m' = 0 <;> cases s <;> cases s' <;>
    simp [hzero, hzero'] at h ⊢
  · rw [h.1, h.2]
  · rw [h.1, h.2]

section Order

variable {x y : Float} {v w : ℚ}

/-- Finite doubles compare as the numbers they stand for. -/
theorem exists_places (hx : value? x = some v) (hy : value? y = some w) :
    ∃ p p', place? x = some p ∧ place? y = some p' ∧ (p < p' ↔ v < w) := by
  obtain ⟨s, m, q, hpartsx, rfl⟩ := value?_eq_some_iff.mp hx
  obtain ⟨s', m', q', hpartsy, rfl⟩ := value?_eq_some_iff.mp hy
  have hnormalx : IsNormal m q := isNormal_of_parts hpartsx
  have hnormaly : IsNormal m' q' := isNormal_of_parts hpartsy
  refine ⟨_, _, place?_of_parts hpartsx, place?_of_parts hpartsy, ?_, ?_⟩
  · exact signed_lt_of_place_lt hnormalx hnormaly
  · intro h
    rcases lt_trichotomy (finitePlace s m q) (finitePlace s' m' q') with hlt | heq | hgt
    · exact hlt
    · exact absurd (signed_eq_of_place_eq heq) h.ne
    · exact absurd (signed_lt_of_place_lt hnormaly hnormalx hgt) h.not_gt

/-- Finite doubles compare as their values. -/
theorem lt_iff_value (hx : value? x = some v) (hy : value? y = some w) : x < y ↔ v < w := by
  obtain ⟨p, p', hp, hp', hiff⟩ := exists_places hx hy
  rw [lt_iff_place, ← hiff, hp, hp']
  constructor
  · rintro ⟨_, _, ⟨⟩, ⟨⟩, h⟩
    exact h
  · intro h
    exact ⟨p, p', rfl, rfl, h⟩

/-- So they do in the other order. -/
theorem le_iff_value (hx : value? x = some v) (hy : value? y = some w) : x ≤ y ↔ v ≤ w := by
  obtain ⟨p', p, hp', hp, hiff⟩ := exists_places hy hx
  rw [le_iff_place, ← not_lt, ← hiff, not_lt, hp, hp']
  constructor
  · rintro ⟨_, _, ⟨⟩, ⟨⟩, h⟩
    exact h
  · intro h
    exact ⟨p, p', rfl, rfl, h⟩

/-- A double above another one is not equal to it. -/
theorem beq_eq_false_of_lt (h : x < y) : (y == x) = false := by
  refine Bool.eq_false_iff.mpr fun hbeq => ?_
  obtain ⟨p, q, hp, hq, hlt⟩ := lt_iff_place.mp h
  obtain ⟨r, hr, hr'⟩ := beq_iff_place.mp hbeq
  cases hp.symm.trans hr'
  cases hq.symm.trans hr
  exact lt_irrefl _ hlt

end Order

/-! ## Rounding up -/

/-- The powers of two as rationals. -/
theorem cast_twoTo (k : Nat) : ((twoTo k : Nat) : ℚ) = 2 ^ (k : Int) := by
  rw [zpow_natCast]
  exact Nat.cast_pow 2 k

/-- A mantissa scaled by a power of two is a quotient of natural numbers. -/
theorem magnitude_eq_div (m : Nat) (q : Int) :
    (m : ℚ) * 2 ^ q = (m * twoTo q.toNat : Nat) / (twoTo (-q).toNat : Nat) := by
  have hsplit : q = (q.toNat : Int) - ((-q).toNat : Int) := by omega
  rw [Nat.cast_mul, cast_twoTo, cast_twoTo, mul_div_assoc, ← zpow_sub₀ two_ne_zero, ← hsplit]

/-- The ceiling of a quotient of natural numbers. -/
theorem ceil_div (a : Nat) {b : Nat} (hb : 0 < b) :
    ⌈(a : ℚ) / b⌉ = if a / b * b = a then ((a / b : Nat) : Int) else (a / b : Nat) + 1 := by
  have hsign : (b : Int).sign = 1 := Int.sign_eq_one_of_pos (Int.natCast_pos.mpr hb)
  have hexact : (b : Int) ∣ a ↔ a / b * b = a := by
    rw [Int.natCast_dvd_natCast]
    exact ⟨Nat.div_mul_cancel, fun h => ⟨a / b, by rw [Nat.mul_comm, h]⟩⟩
  have hneg : ⌈(a : ℚ) / b⌉ = -(-(a / b : Nat) - if (b : Int) ∣ a then 0 else 1) := by
    rw [Rat.ceil_natCast_div_natCast, Int.neg_ediv, hsign]
    rfl
  simp only [hexact] at hneg
  rw [hneg]
  split <;> omega

/-- The integer above a finite double is the ceiling of its value. -/
theorem integer_up (s : Bool) (m : Nat) (q : Int) :
    Rounding.up.integer s m q = ⌈signed s m q⌉ := by
  have hb : 0 < twoTo (-q).toNat := Nat.two_pow_pos _
  rw [Rounding.integer, signed, magnitude_eq_div]
  generalize m * twoTo q.toNat = a
  generalize twoTo (-q).toNat = b at hb
  cases s with
  | true =>
      -- below zero the magnitude is rounded down
      have hceil : ⌈-1 * ((a : ℚ) / b)⌉ = -((a / b : Nat) : Int) := by
        rw [neg_one_mul, Int.ceil_neg, Rat.floor_natCast_div_natCast]
        rfl
      simpa using hceil.symm
  | false =>
      have hceil := ceil_div a hb
      simpa using hceil.symm

/-- Rounding up goes to the least integer that is not below. -/
theorem toInteger_up {x : Float} {v : ℚ} (h : value? x = some v) : toInteger .up x = .ok ⌈v⌉ := by
  obtain ⟨s, m, q, hx, rfl⟩ := value?_eq_some_iff.mp h
  rw [toInteger, hx, ← integer_up]

end SignalLab.Double
