import Mathlib.Data.List.Nodup
import Mathlib.Data.List.Sort
import SignalLab.Lab.Display
import SignalLab.Proofs.Fallible

/-!
# The two pairings — bins counted from zero and from one

Each lower bin of a spectrum has one pair, with the bin that mirrors it; the zeroth bin mirrors
itself, and so does the middle one if there is one (`Spectrum.IsPair`).  Together the pairs have
every bin once.  The labs count from one: their partner of bin `k` is the mirror image of bin
`k - 1`, and none of the positions they look up counts backwards from the end.

  * `Spectrum.exists_hermitianPairs` — a spectrum has its pairs if the distances of its lower bins
    are doubles.
  * `Spectrum.perm_bins` — the pairs have every bin once.
  * `Spectrum.pairings_agree` — the errors of the labs are the differences of the pairs.
-/

namespace SignalLab.Spectrum

open Fallible

variable {spectrum : List ComplexDouble}

/-! ## Elements -/

/-- A bin is looked up by its number. -/
theorem elementAt_ok_iff {i : Nat} {z : ComplexDouble} :
    elementAt spectrum i = .ok z ↔ spectrum[i]? = some z := by
  have hsign : ¬ (i : Int) < 0 := by omega
  rw [elementAt, if_neg hsign, if_neg hsign, Int.toNat_natCast]
  cases hz : spectrum[i]? with
  | none =>
      constructor
      · intro h
        cases h
      · intro h
        cases h
  | some w => simp only [Except.ok.injEq, Option.some.injEq]

/-- Every number below the length has a bin. -/
theorem exists_elementAt {i : Nat} (h : i < spectrum.length) :
    ∃ z, elementAt spectrum i = .ok z ∧ spectrum[i]? = some z :=
  ⟨spectrum[i], elementAt_ok_iff.mpr (List.getElem?_eq_getElem h), List.getElem?_eq_getElem h⟩

/-! ## Pairs -/

/-- The mirror image of a bin. -/
def mirror (size k : Nat) : Nat :=
  (size - k) % size

theorem mirror_zero (size : Nat) : mirror size 0 = 0 :=
  Nat.mod_self size

/-- Any bin but the first is mirrored at the middle. -/
theorem mirror_of_pos {size k : Nat} (hpos : 0 < k) (hk : k ≤ size) : mirror size k = size - k :=
  Nat.mod_eq_of_lt (by omega)

/-- The bins of a pair; a special one is a bin with itself. -/
def Pair.bins (p : Pair) : List Nat :=
  if p.special then [p.bin] else [p.bin, p.partner]

/-- The pair of a lower bin and its mirror image. -/
structure IsPair (spectrum : List ComplexDouble) (p : Pair) : Prop where
  lower : 2 * p.bin ≤ spectrum.length
  mirrored : p.partner = mirror spectrum.length p.bin
  special_iff : p.special = true ↔ p.partner = p.bin
  value : spectrum[p.bin]? = some p.value
  partnerValue : spectrum[p.partner]? = some p.partnerValue
  difference : p.special = false →
    (p.value.sub p.partnerValue.conjugate).modulus = .ok p.difference

/-- The magnitudes that pairing works out come without a fault: the distances of the lower bins
from the conjugates of their mirror images are doubles. -/
def HasDistances (spectrum : List ComplexDouble) : Prop :=
  ∀ k a b, 0 < k → 2 * k < spectrum.length → spectrum[k]? = some a →
    spectrum[spectrum.length - k]? = some b → ∃ m, (a.sub b.conjugate).modulus = .ok m

/-- The pair of a lower bin: it is special, or has the distance of its two elements. -/
theorem pairOf_eq (hne : spectrum ≠ []) {k : Nat} (hk : 2 * k ≤ spectrum.length) :
    let m := mirror spectrum.length k
    ∃ a b, spectrum[k]? = some a ∧ spectrum[m]? = some b ∧ pairOf spectrum k =
      if m = k then .ok ⟨k, m, a, b, 0.0, true⟩
      else (a.sub b.conjugate).modulus.map fun distance => ⟨k, m, a, b, distance, false⟩ := by
  intro m
  have hpos : 0 < spectrum.length := List.length_pos_iff.mpr hne
  have hm : m < spectrum.length := Nat.mod_lt _ hpos
  have hpartner : (if k = 0 then 0 else spectrum.length - k) = m := by
    split
    · rename_i hzero
      subst hzero
      exact (mirror_zero _).symm
    · exact (mirror_of_pos (by omega) (by omega)).symm
  have hspecial : (k = 0 ∨ spectrum.length % 2 = 0 ∧ k = spectrum.length / 2) ↔ m = k := by
    rw [← hpartner]
    split
    · omega
    · omega
  obtain ⟨a, ha, hak⟩ := exists_elementAt (show k < spectrum.length by omega)
  obtain ⟨b, hb, hbm⟩ := exists_elementAt hm
  refine ⟨a, b, hak, hbm, ?_⟩
  rw [pairOf, hpartner, ha, hb]
  by_cases hself : m = k
  · simp only [hspecial, hself]
    rfl
  · simp only [hspecial, hself]
    rfl

/-- Up to the middle every bin has a pair, if the magnitudes are numbers. -/
theorem exists_pairOf (hne : spectrum ≠ []) (h : HasDistances spectrum) {k : Nat}
    (hk : 2 * k ≤ spectrum.length) : ∃ p, pairOf spectrum k = .ok p := by
  obtain ⟨a, b, ha, hb, heq⟩ := pairOf_eq hne hk
  rw [heq]
  split
  · exact ⟨_, rfl⟩
  · rename_i hother
    -- a bin that is not its own mirror image is strictly between the zeroth and the middle one
    have hpos : 0 < k := Nat.pos_of_ne_zero fun hzero => hother (by rw [hzero, mirror_zero])
    rw [mirror_of_pos hpos (by omega)] at hother hb
    obtain ⟨distance, hdistance⟩ := h k a b hpos (by omega) ha hb
    rw [hdistance]
    exact ⟨_, rfl⟩

/-- What is computed for a bin is its pair. -/
theorem isPair_of_pairOf (hne : spectrum ≠ []) {k : Nat} {p : Pair}
    (hk : 2 * k ≤ spectrum.length) (h : pairOf spectrum k = .ok p) :
    p.bin = k ∧ IsPair spectrum p := by
  obtain ⟨a, b, ha, hb, heq⟩ := pairOf_eq hne hk
  rw [heq] at h
  split at h
  · rename_i hself
    cases h
    exact ⟨rfl, hk, rfl, iff_of_true rfl hself, ha, hb, fun hspecial => by cases hspecial⟩
  · rename_i hother
    obtain ⟨distance, hdistance, rfl⟩ := map_ok_iff.mp h
    exact ⟨rfl, hk, rfl, iff_of_false Bool.false_ne_true hother, ha, hb, fun _ => hdistance⟩

/-- A spectrum has its pairs if it has its distances: one pair for every lower bin, in their
order. -/
theorem exists_hermitianPairs (hne : spectrum ≠ []) (h : HasDistances spectrum) :
    ∃ pairs, hermitianPairs spectrum = .ok pairs ∧
      pairs.map Pair.bin = List.range (spectrum.length / 2 + 1) ∧
      ∀ p ∈ pairs, IsPair spectrum p := by
  have hlower : ∀ k ∈ List.range (spectrum.length / 2 + 1), 2 * k ≤ spectrum.length := by
    intro k hk
    have hk := List.mem_range.mp hk
    omega
  obtain ⟨pairs, hpairs⟩ := exists_mapM_ok fun k hk => exists_pairOf hne h (hlower k hk)
  have hspec : ∀ p ∈ pairs, IsPair spectrum p := by
    intro p hp
    obtain ⟨k, hk, hpair⟩ := exists_of_mem_mapM_ok hpairs p hp
    exact (isPair_of_pairOf hne (hlower k hk) hpair).2
  refine ⟨pairs, ?_, ?_, hspec⟩
  · rw [hermitianPairs, if_neg (mt List.isEmpty_iff.mp hne)]
    exact hpairs
  · exact map_of_mapM_ok hpairs fun k hk p hp => (isPair_of_pairOf hne (hlower k hk) hp).1

/-! ## Every bin once -/

/-- The bins of a pair are both the zeroth, or they make up the length. -/
theorem IsPair.bins_cases {p : Pair} (h : IsPair spectrum p) :
    p.bin = 0 ∧ p.partner = 0 ∨ 0 < p.bin ∧ p.bin + p.partner = spectrum.length := by
  have hlower := h.lower
  have hmirrored := h.mirrored
  rcases Nat.eq_zero_or_pos p.bin with hzero | hpos
  · rw [hzero, mirror_zero] at hmirrored
    exact .inl ⟨hzero, hmirrored⟩
  · rw [mirror_of_pos hpos (by omega)] at hmirrored
    exact .inr ⟨hpos, by omega⟩

/-- The bins of a pair are its two partners. -/
theorem IsPair.mem_bins_iff {p : Pair} (h : IsPair spectrum p) {k : Nat} :
    k ∈ p.bins ↔ k = p.bin ∨ k = p.partner := by
  rw [Pair.bins]
  split
  · rename_i hspecial
    rw [h.special_iff.mp hspecial, List.mem_singleton, or_self]
  · rw [List.mem_cons, List.mem_singleton]

/-- A bin that is its own partner is listed once. -/
theorem IsPair.nodup_bins {p : Pair} (h : IsPair spectrum p) : p.bins.Nodup := by
  rw [Pair.bins]
  split
  · exact List.nodup_singleton _
  · rename_i hother
    have hne : p.bin ≠ p.partner := fun heq => hother (h.special_iff.mpr heq.symm)
    exact List.nodup_cons.mpr ⟨fun hmem => hne (List.mem_singleton.mp hmem), List.nodup_singleton _⟩

/-- The pairs are in the order of their first bins. -/
theorem pairwise_bin {pairs : List Pair} {n : Nat} (hbins : pairs.map Pair.bin = List.range n) :
    pairs.Pairwise fun p q => p.bin < q.bin := by
  rw [← List.pairwise_map, hbins]
  exact List.pairwise_lt_range

/-- The bins of the pairs are all the bins. -/
theorem mem_flatMap_bins {pairs : List Pair} (hne : spectrum ≠ [])
    (hbins : pairs.map Pair.bin = List.range (spectrum.length / 2 + 1))
    (hpairs : ∀ p ∈ pairs, IsPair spectrum p) {k : Nat} :
    k ∈ pairs.flatMap Pair.bins ↔ k < spectrum.length := by
  have hpos : 0 < spectrum.length := List.length_pos_iff.mpr hne
  rw [List.mem_flatMap]
  constructor
  · rintro ⟨p, hp, hk⟩
    have hlower := (hpairs p hp).lower
    have hcases := (hpairs p hp).bins_cases
    have hk := (hpairs p hp).mem_bins_iff.mp hk
    omega
  · intro hk
    -- the bin itself if it is a lower one, and its mirror image otherwise
    obtain ⟨bin, hbin, heq⟩ : ∃ bin, bin < spectrum.length / 2 + 1 ∧
        (k = bin ∨ 0 < bin ∧ bin + k = spectrum.length) := by
      by_cases hlower : 2 * k ≤ spectrum.length
      · exact ⟨k, by omega, .inl rfl⟩
      · exact ⟨spectrum.length - k, by omega, .inr (by omega)⟩
    obtain ⟨p, hp, rfl⟩ : ∃ p ∈ pairs, p.bin = bin := by
      rw [← List.mem_map, hbins]
      exact List.mem_range.mpr hbin
    have hcases := (hpairs p hp).bins_cases
    exact ⟨p, hp, (hpairs p hp).mem_bins_iff.mpr (by omega)⟩

/-- The pairs have every bin once. -/
theorem perm_bins {pairs : List Pair} (hne : spectrum ≠ [])
    (hbins : pairs.map Pair.bin = List.range (spectrum.length / 2 + 1))
    (hpairs : ∀ p ∈ pairs, IsPair spectrum p) :
    (pairs.flatMap Pair.bins).Perm (List.range spectrum.length) := by
  have hnodup : (pairs.flatMap Pair.bins).Nodup := by
    refine List.nodup_flatMap.mpr ⟨fun p hp => (hpairs p hp).nodup_bins, ?_⟩
    refine (pairwise_bin hbins).imp_of_mem fun {p q} hp hq hpq => ?_
    intro k hkp hkq
    have hkp := (hpairs p hp).mem_bins_iff.mp hkp
    have hkq := (hpairs q hq).mem_bins_iff.mp hkq
    have hlower := (hpairs q hq).lower
    have hcases := (hpairs p hp).bins_cases
    have hcases' := (hpairs q hq).bins_cases
    omega
  rw [List.perm_ext_iff_of_nodup hnodup List.nodup_range]
  intro k
  rw [mem_flatMap_bins hne hbins hpairs, List.mem_range]

/-! ## Bins counted from one -/

/-- In the counting of the labs the partner of a bin is its mirror image, and its error is the
distance of the pair. -/
theorem IsPair.labError_eq {p : Pair} (h : IsPair spectrum p) (hother : p.special = false) {k : Int}
    (hk : (p.bin : Int) = k - 1) :
    labPartner k spectrum.length - 1 = p.partner ∧ labError spectrum k = .ok p.difference := by
  have hne : p.partner ≠ p.bin := fun heq => by
    rw [h.special_iff.mpr heq] at hother
    cases hother
  have hcases := h.bins_cases
  have hpartner : labPartner k spectrum.length - 1 = p.partner := by
    rw [labPartner]
    omega
  refine ⟨hpartner, ?_⟩
  rw [labError, hpartner, ← hk, elementAt_ok_iff.mpr h.value, elementAt_ok_iff.mpr h.partnerValue]
  exact h.difference hother

/-- The pairs of the bins of a symmetry table. -/
def tablePairs (pairs : List Pair) (size : Nat) (last : Int) : List Pair :=
  pairs.filter fun p => 1 ≤ p.bin ∧ (p.bin : Int) < min last (size / 2 : Nat)

/-- The table has a row for each of the first pairs, but for the pair of the first bin. -/
theorem tableBins_eq {pairs : List Pair} {size : Nat} (last : Int)
    (hbins : pairs.map Pair.bin = List.range (size / 2 + 1)) :
    Lab.tableBins size last = (tablePairs pairs size last).map (·.bin + 1) := by
  have hlt : ((tablePairs pairs size last).map (·.bin + 1)).Pairwise (· < ·) :=
    List.pairwise_map.mpr (((pairwise_bin hbins).filter _).imp Nat.succ_lt_succ)
  refine List.Pairwise.eq_of_mem_iff List.pairwise_lt_range' hlt fun k => ?_
  rw [Lab.tableBins, List.mem_range'_1, List.mem_map]
  constructor
  · intro hk
    obtain ⟨p, hp, hbin⟩ : ∃ p ∈ pairs, p.bin = k - 1 := by
      rw [← List.mem_map, hbins]
      exact List.mem_range.mpr (by omega)
    have hinner : 1 ≤ p.bin ∧ (p.bin : Int) < min last (size / 2 : Nat) := by omega
    exact ⟨p, List.mem_filter.mpr ⟨hp, decide_eq_true hinner⟩, by omega⟩
  · rintro ⟨p, hp, rfl⟩
    obtain ⟨-, hinner⟩ := List.mem_filter.mp hp
    have hinner := of_decide_eq_true hinner
    omega

/-- The errors in the table are the distances of these pairs. -/
theorem exists_symmetryRows {pairs : List Pair}
    (hbins : pairs.map Pair.bin = List.range (spectrum.length / 2 + 1))
    (hpairs : ∀ p ∈ pairs, IsPair spectrum p) (last : Int) :
    ∃ rows, Lab.symmetryRows spectrum last = .ok rows ∧
      rows.map (·.2) = (tablePairs pairs spectrum.length last).map Pair.difference := by
  have hrow : ∀ p ∈ tablePairs pairs spectrum.length last,
      labError spectrum ((p.bin + 1 : Nat) : Int) = .ok p.difference := by
    intro p hp
    obtain ⟨hmem, hinner⟩ := List.mem_filter.mp hp
    have hinner := of_decide_eq_true hinner
    -- a bin of a table is strictly between the zeroth and the middle one
    have hother : p.special = false := by
      refine Bool.eq_false_iff.mpr fun hspecial => ?_
      have hself := (hpairs p hmem).special_iff.mp hspecial
      have hcases := (hpairs p hmem).bins_cases
      omega
    exact ((hpairs p hmem).labError_eq hother (by omega)).2
  have hrows : Lab.symmetryRows spectrum last = .ok ((tablePairs pairs spectrum.length last).map
      fun p => (Lab.symmetryRow spectrum.length (p.bin + 1) p.difference, p.difference)) := by
    rw [Lab.symmetryRows, tableBins_eq last hbins]
    refine mapM_map_ok fun p hp => ?_
    rw [hrow p hp]
    rfl
  exact ⟨_, hrows, List.map_map⟩

/-- What the pairs of a spectrum are, and what the labs find for the same bins. -/
structure PairingsAgree (spectrum : List ComplexDouble) (pairs : List Pair) : Prop where
  /-- There is a pair for every lower bin, in their order. -/
  lower : pairs.map Pair.bin = List.range (spectrum.length / 2 + 1)
  /-- Each is the pair of two elements of the spectrum, and special if these are one. -/
  paired : ∀ p ∈ pairs, IsPair spectrum p
  /-- Together they have every bin once. -/
  once : (pairs.flatMap Pair.bins).Perm (List.range spectrum.length)
  /-- The error of a bin that is not special is the distance of its pair, and neither position that
  is looked up for it counts backwards or is beyond the end. -/
  errors : ∀ k : Int, 2 ≤ k → ∀ p ∈ pairs, (p.bin : Int) = k - 1 → p.special = false →
    (0 ≤ k - 1 ∧ k - 1 < spectrum.length) ∧
    (0 ≤ labPartner k spectrum.length - 1 ∧
      labPartner k spectrum.length - 1 < spectrum.length) ∧
    labError spectrum k = .ok p.difference
  /-- The errors of a table are the distances of the pairs of its bins. -/
  rows : ∀ last : Int, ∃ rows, Lab.symmetryRows spectrum last = .ok rows ∧
    rows.map (·.2) = (tablePairs pairs spectrum.length last).map Pair.difference

/-- The two pairings agree on every spectrum whose distances are doubles. -/
theorem pairings_agree (spectrum : List ComplexDouble) (hne : spectrum ≠ [])
    (h : HasDistances spectrum) :
    ∃ pairs, hermitianPairs spectrum = .ok pairs ∧ PairingsAgree spectrum pairs := by
  obtain ⟨pairs, hpairs, hbins, hspec⟩ := exists_hermitianPairs hne h
  refine ⟨pairs, hpairs, hbins, hspec, perm_bins hne hbins hspec, ?_, ?_⟩
  · intro k hk p hp hbin hother
    obtain ⟨hpartner, herror⟩ := (hspec p hp).labError_eq hother hbin
    obtain ⟨hbound, -⟩ := List.getElem?_eq_some_iff.mp (hspec p hp).value
    obtain ⟨hpartnerBound, -⟩ := List.getElem?_eq_some_iff.mp (hspec p hp).partnerValue
    exact ⟨by omega, by omega, herror⟩
  · exact exists_symmetryRows hbins hspec

/-- A spectrum of five bins, of which two pairs are distinct and one of these is not symmetric. -/
theorem pairings_agree_five :
    let spectrum : List ComplexDouble :=
      [⟨6.0, 0.0⟩, ⟨-1.5, 2.0⟩, ⟨3.0, -4.0⟩, ⟨3.0, 4.0⟩, ⟨-1.5, -1.0⟩]
    spectrum ≠ [] ∧ HasDistances spectrum ∧
      ∃ pairs, hermitianPairs spectrum = .ok pairs ∧ PairingsAgree spectrum pairs := by
  intro spectrum
  have hne : spectrum ≠ [] := List.cons_ne_nil _ _
  have hdistances : HasDistances spectrum := by
    intro k a b hpos hk ha hb
    have hlength : spectrum.length = 5 := rfl
    obtain rfl | rfl : k = 1 ∨ k = 2 := by omega
    · cases ha
      cases hb
      exact isOk_iff.mp (by decide +kernel)
    · cases ha
      cases hb
      exact isOk_iff.mp (by decide +kernel)
  exact ⟨hne, hdistances, pairings_agree spectrum hne hdistances⟩

end SignalLab.Spectrum
