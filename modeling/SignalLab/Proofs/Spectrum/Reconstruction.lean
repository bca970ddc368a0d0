import SignalLab.Spectrum.Harmonics

/-!
# Reconstruction — which harmonics a rebuilt sample is made of

A rebuilt sample is the running sum of the constant and of the harmonics in the order of their
numbers (`Spectrum.partialSum_eq_harmonicSum`), so it depends on no other coefficient
(`Spectrum.harmonicSum_congr`).  Asked for a positive number of terms the harmonics from that number
on are dropped; asked for none of them all are used, as if nothing had been asked for
(`Spectrum.partialSum_of_agreeBelow`).
-/

namespace SignalLab.Spectrum

/-! ## Running sums -/

/-- What harmonic `k` of a signal with `size` coefficients adds to sample `n`. -/
def harmonic (size n k : Nat) (c : ComplexDouble) : Float :=
  let angle := turn * Double.ofNat k * Double.ofNat n / Double.ofNat size
  2.0 * (c.re * Float.cos angle - c.im * Float.sin angle)

/-- The constant and the harmonics up to number `j`, summed up at sample `n`.  Numbers that no
coefficient has add nothing. -/
def harmonicSum (coefficients : List ComplexDouble) (n : Nat) : Nat → Float
  | 0 => (coefficients.head?.map ComplexDouble.re).getD 0.0
  | j + 1 =>
    match coefficients[j + 1]? with
    | some c => harmonicSum coefficients n j + harmonic coefficients.length n (j + 1) c
    | none => harmonicSum coefficients n j

section Sums

variable {cs ds : List ComplexDouble} {n : Nat}

/-- A running sum depends on the coefficients up to its last harmonic, and on how many there are. -/
theorem harmonicSum_congr {j : Nat} (hlength : cs.length = ds.length) (hhead : cs.head? = ds.head?)
    (h : ∀ k, 1 ≤ k → k ≤ j → cs[k]? = ds[k]?) : harmonicSum cs n j = harmonicSum ds n j := by
  induction j with
  | zero => rw [harmonicSum, harmonicSum, hhead]
  | succ j ih =>
      rw [harmonicSum, harmonicSum, h (j + 1) (Nat.succ_pos j) (Nat.le_refl _), hlength,
        ih fun k hk hj => h k hk (Nat.le_succ_of_le hj)]

/-- Behind the last coefficient the sum no longer changes. -/
theorem harmonicSum_add {j : Nat} (h : cs.length ≤ j + 1) (d : Nat) :
    harmonicSum cs n (j + d) = harmonicSum cs n j := by
  induction d with
  | zero => rfl
  | succ d ih =>
      have hnone : cs[j + d + 1]? = none := List.getElem?_eq_none (by omega)
      rw [← Nat.add_assoc, harmonicSum, hnone, ih]

/-- The harmonics among the first `limit` coefficients, with their numbers as doubles. -/
def numbered (cs : List ComplexDouble) (limit : Nat) : List (ComplexDouble × Float) :=
  (cs.take limit).zipIdx.tail.map fun (c, k) => (c, Double.ofNat k)

theorem getElem?_numbered {limit j : Nat} (h : j + 1 < limit) :
    (numbered cs limit)[j]? = (cs[j + 1]?).map fun c => (c, Double.ofNat (j + 1)) := by
  rw [numbered, List.getElem?_map, List.getElem?_tail, List.getElem?_zipIdx,
    List.getElem?_take_of_lt h]
  cases cs[j + 1]? <;> simp

theorem length_numbered (limit : Nat) :
    (numbered cs limit).length = min limit cs.length - 1 := by
  simp [numbered]

/-- Summing the harmonics one after the other gives the running sums. -/
theorem rebuiltSample_numbered (limit : Nat) {j : Nat} (h : j + 1 ≤ limit ∨ j = 0) :
    rebuiltSample (Double.ofNat cs.length) ((cs.head?.map ComplexDouble.re).getD 0.0)
      ((numbered cs limit).take j) (Double.ofNat n) = harmonicSum cs n j := by
  induction j with
  | zero => rfl
  | succ j ih =>
      have hnumber : j + 1 < limit := by omega
      have hprevious := ih (.inl (by omega))
      rw [rebuiltSample] at hprevious ⊢
      rw [List.take_add_one, List.foldl_append, hprevious, getElem?_numbered hnumber, harmonicSum]
      cases cs[j + 1]? <;> rfl

theorem usedTerms_le (terms : Option Int) (size : Nat) : usedTerms terms size ≤ size := by
  unfold usedTerms
  split
  · split
    · exact Nat.le_refl _
    · exact Nat.min_le_right _ _
  · exact Nat.le_refl _

theorem usedTerms_natCast {m : Nat} (hm : m ≠ 0) (size : Nat) :
    usedTerms (some m) size = min m size := by
  rw [usedTerms, if_neg (Int.natCast_ne_zero.mpr hm), Int.toNat_natCast]

/-- A sample is rebuilt from the constant and the harmonics that are used. -/
theorem partialSum_eq_harmonicSum (cs : List ComplexDouble) (count : Nat) (terms : Option Int) :
    partialSum cs count terms =
      (List.range count).map fun n => harmonicSum cs n (usedTerms terms cs.length - 1) := by
  refine List.map_congr_left fun n _ => ?_
  have hused : usedTerms terms cs.length ≤ cs.length := usedTerms_le terms cs.length
  have hall : (numbered cs (usedTerms terms cs.length)).length ≤ usedTerms terms cs.length - 1 :=
    Nat.le_of_eq (by rw [length_numbered, Nat.min_eq_left hused])
  rw [← rebuiltSample_numbered (usedTerms terms cs.length) (by omega),
    List.take_of_length_le hall, numbered]

end Sums

/-! ## Truncation -/

/-- Lists of as many coefficients with the same first one, and the same at every number from one up
to `m`, `m` excluded. -/
structure AgreeBelow (m : Nat) (cs ds : List ComplexDouble) : Prop where
  length_eq : cs.length = ds.length
  head_eq : cs.head? = ds.head?
  agree : ∀ k, 1 ≤ k → k < m → cs[k]? = ds[k]?

/-- Asked for a positive number of terms, a reconstruction is the running sum up to the last of
them, and the coefficients from there on are ignored; asked for no terms it uses all
coefficients. -/
theorem partialSum_of_agreeBelow {m : Nat} {cs ds : List ComplexDouble} (h : AgreeBelow m cs ds)
    (count : Nat) :
    (m ≠ 0 →
      partialSum cs count (some m) = (List.range count).map (fun n => harmonicSum cs n (m - 1)) ∧
        partialSum cs count (some m) = partialSum ds count (some m)) ∧
      (m = 0 → partialSum cs count (some m) =
        (List.range count).map fun n => harmonicSum cs n (cs.length - 1)) := by
  constructor
  · intro hm
    rw [partialSum_eq_harmonicSum, partialSum_eq_harmonicSum, usedTerms_natCast hm,
      usedTerms_natCast hm, ← h.length_eq]
    constructor
    · refine List.map_congr_left fun n _ => ?_
      rcases Nat.le_total m cs.length with hle | hle
      · rw [Nat.min_eq_left hle]
      · obtain ⟨d, hd⟩ : ∃ d, m - 1 = cs.length - 1 + d := ⟨m - 1 - (cs.length - 1), by omega⟩
        rw [Nat.min_eq_right hle, hd, harmonicSum_add (by omega)]
    · exact List.map_congr_left fun n _ => harmonicSum_congr h.length_eq h.head_eq fun k hk hj =>
        h.agree k hk (by omega)
  · rintro rfl
    rw [partialSum_eq_harmonicSum]
    rfl

/-- Two terms of three coefficients: the last one is ignored. -/
theorem partialSum_two_terms :
    AgreeBelow 2 [⟨1.0, 0.0⟩, ⟨2.0, 0.5⟩, ⟨3.0, 0.0⟩] [⟨1.0, 0.0⟩, ⟨2.0, 0.5⟩, ⟨9.0, 7.0⟩] ∧
      partialSum [⟨1.0, 0.0⟩, ⟨2.0, 0.5⟩, ⟨3.0, 0.0⟩] 4 (some 2) =
        partialSum [⟨1.0, 0.0⟩, ⟨2.0, 0.5⟩, ⟨9.0, 7.0⟩] 4 (some 2) := by
  have hagree :
      AgreeBelow 2 [⟨1.0, 0.0⟩, ⟨2.0, 0.5⟩, ⟨3.0, 0.0⟩] [⟨1.0, 0.0⟩, ⟨2.0, 0.5⟩, ⟨9.0, 7.0⟩] := by
    refine ⟨by simp, by simp, fun k hk hlt => ?_⟩
    obtain rfl : k = 1 := by omega
    simp
  exact ⟨hagree, ((partialSum_of_agreeBelow hagree 4).1 (by decide)).2⟩

end SignalLab.Spectrum
