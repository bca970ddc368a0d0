import SignalLab.Number.Reading
import SignalLab.Proofs.Number.Sums

/-!
# Negation — the sign of a rounded number

Rounding to the nearest double does not look at the sign: the nearest double to a number with a minus
sign is the negative of the nearest one without it (`Double.neg_nearest`), infinite or not, and so is
the double of a decimal (`Double.neg_ofDecimal`).
-/

namespace SignalLab.Double

open Float.Model Float.Model.UnpackedFloat

/-- Negation changes the sign of a pattern and nothing else. -/
theorem exists_packComponents {u : UnpackedFloat} (hu : u ≠ .notANumber) :
    ∃ s k f, pack Format.binary64 u = packComponents Format.binary64 s k f ∧
      pack Format.binary64 u.neg = packComponents Format.binary64 (-s) k f := by
  cases u with
  | notANumber => exact absurd rfl hu
  | infinity s => exact ⟨s, -1, 0, rfl, rfl⟩
  | zero s => exact ⟨s, 0, 0, rfl, rfl⟩
  | finite s m e hm =>
      rw [UnpackedFloat.neg, UnpackedFloat.pack, UnpackedFloat.pack]
      split
      · exact ⟨s, -1, 0, rfl, rfl⟩
      · split
        · exact ⟨s, _, _, rfl, rfl⟩
        · exact ⟨s, _, _, rfl, rfl⟩

theorem neg_nearest (num den : Nat) : -nearest false num den = nearest true num den := by
  have hle : nearestBits num den ≤ 2047 * 2 ^ 52 := nearestBits_le num den
  have hbits := toBits_nearest false num den
  rw [if_neg Bool.false_ne_true, Nat.zero_add] at hbits
  rw [← Float.toBits_inj, ← UInt64.toNat_inj, toBits_nearest, if_pos rfl]
  generalize nearest false num den = x at hbits
  have hnumber : x.toBits.toNat / twoTo 52 % 2048 = 2047 → x.toBits.toNat % twoTo 52 = 0 := by
    show x.toBits.toNat / 2 ^ 52 % 2048 = 2047 → x.toBits.toNat % 2 ^ 52 = 0
    omega
  -- a number is unpacked and packed again as it was, and negation changes the unpacked sign
  have hpack : pack Format.binary64 (unpack Format.binary64 x.toBits.toBitVec) =
      x.toBits.toBitVec := by
    rw [UnpackedFloat.pack_unpack, isNaNBits_eq_false hnumber, if_neg Bool.false_ne_true]
  have hneg : (-x).toBits.toNat =
      (pack Format.binary64 (unpack Format.binary64 x.toBits.toBitVec).neg).toNat := rfl
  have hnat : x.toBits.toBitVec.toNat = nearestBits num den := hbits
  have hne : unpack Format.binary64 x.toBits.toBitVec ≠ .notANumber := by
    intro heq
    rw [heq] at hpack
    have hnan : (packedNaN Format.binary64).toNat = nearestBits num den := by
      rw [← hnat, ← hpack]
      rfl
    have hquiet : (packedNaN Format.binary64).toNat = 2047 * 2 ^ 52 + 2 ^ 51 := by decide
    omega
  obtain ⟨s, k, f, hs, hns⟩ := exists_packComponents hne
  rw [hs] at hpack
  have hpattern := toNat_packComponents s k f
  rw [hpack, hnat] at hpattern
  rw [hneg, hns, toNat_packComponents]
  cases s with
  | negative =>
      have hsign : twoTo 63 = 2 ^ 63 := rfl
      rw [if_pos (by rfl), hsign] at hpattern
      omega
  | positive =>
      rw [if_neg (by decide)] at hpattern
      rw [if_pos (by rfl)]
      omega

/-- The double of a decimal with a minus sign is the negative of the one without it. -/
theorem neg_ofDecimal (coefficient : Nat) (exponent : Int) :
    -ofDecimal false coefficient exponent = ofDecimal true coefficient exponent := by
  simp only [ofDecimal]
  split
  · exact neg_nearest 0 1
  · split
    · rfl
    · exact neg_nearest _ _

end SignalLab.Double
