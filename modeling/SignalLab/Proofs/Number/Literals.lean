import Mathlib.Data.List.Chain
import Mathlib.Data.List.TakeWhile
import SignalLab.Number.Reading
import SignalLab.Proofs.Text.Calls
import SignalLab.Proofs.Text.Names

/-!
# Literals — the characters a number is written with

A bare decimal literal is digits of any script, signs, a point and the mark of an exponent, in an
order that the reader checks.  Whatever the order, none of these characters is a blank, a bracket or
an operator between two operands, so that a literal is one piece for all readers of a statement.  A
digit begins no name, in any script (`isNameStart_of_isDecimalDigit`).
-/

namespace SignalLab.Text

/-- The characters of decimal literals. -/
def IsLiteralChar (c : Char) : Prop :=
  isDecimalDigit c = true ∨ c ∈ ['+', '-', '.', 'e', 'E']

/-- What a sign takes away are characters of literals. -/
theorem of_mem_takeSign {s : Text} {c : Char} (hc : c ∈ s) :
    IsLiteralChar c ∨ c ∈ (takeSign s).2 := by
  unfold takeSign
  split
  · rcases List.mem_cons.mp hc with rfl | hc
    · exact .inl (.inr (by decide))
    · exact .inr hc
  · rcases List.mem_cons.mp hc with rfl | hc
    · exact .inl (.inr (by decide))
    · exact .inr hc
  · exact .inr hc

/-- So are the digits, and the underscores among them. -/
theorem of_mem_takeDigits {s : Text} {c : Char} (hc : c ∈ s) :
    IsLiteralChar c ∨ c ∈ (takeDigits s).2 := by
  induction s with
  | nil => cases hc
  | cons d s ih =>
      rw [takeDigits]
      cases hd : digitValue? d with
      | none => exact .inr hc
      | some k =>
          rcases List.mem_cons.mp hc with rfl | hc
          · exact .inl (.inl (by rw [isDecimalDigit, hd]; rfl))
          · exact ih hc

/-- An exponent consists of characters of literals. -/
theorem isLiteralChar_of_readExponent? {s : Text} {e : Int} (h : readExponent? s = some e)
    {c : Char} (hc : c ∈ s) : IsLiteralChar c := by
  cases s with
  | nil => cases hc
  | cons d s =>
      rw [readExponent?] at h
      split at h
      · rename_i hmark
        rcases List.mem_cons.mp hc with rfl | hc
        · exact .inr (by rcases hmark with rfl | rfl <;> decide)
        · rcases of_mem_takeSign hc with hc | hc
          · exact hc
          cases hsign : takeSign s with
          | mk negative body =>
          cases hdigits : takeDigits body with
          | mk digits rest =>
          rw [hsign] at h hc
          simp only [hdigits] at h
          rcases of_mem_takeDigits hc with hc | hc
          · exact hc
          · rw [hdigits] at hc
            split at h
            · cases h
            · rename_i heq
              cases heq
              cases hc
            · cases h
      · cases h

/-- A literal is made of digits, signs, a point and the mark of an exponent. -/
theorem isLiteralChar_of_readLiteral? {v : Text} {x : Float} (h : readLiteral? v = some x)
    {c : Char} (hc : c ∈ v) : IsLiteralChar c := by
  rcases of_mem_takeSign hc with hc | hc
  · exact hc
  cases hsign : takeSign v with
  | mk negative body =>
  cases hwhole : takeDigits body with
  | mk whole behind =>
  rw [readLiteral?, hsign] at h
  simp only [hwhole] at h
  rw [hsign] at hc
  rcases of_mem_takeDigits hc with hc | hc
  · exact hc
  rw [hwhole] at hc
  split at h
  · split at h
    · cases h
    · obtain ⟨e, he, -⟩ := Option.map_eq_some_iff.mp h
      rcases List.mem_cons.mp hc with rfl | hc
      · exact .inr (by decide)
      · rcases of_mem_takeDigits hc with hc | hc
        · exact hc
        · exact isLiteralChar_of_readExponent? he hc
  · split at h
    · cases h
    · obtain ⟨e, he, -⟩ := Option.map_eq_some_iff.mp h
      exact isLiteralChar_of_readExponent? he hc

/-- A text that begins like a name is no literal. -/
theorem readLiteral?_of_isAsciiNameStart {c : Char} (hc : isAsciiNameStart c = true) (s : Text) :
    readLiteral? (c :: s) = none := by
  have hplain : c ≠ '+' ∧ c ≠ '-' ∧ c ≠ '.' := by
    refine ⟨?_, ?_, ?_⟩ <;> (rintro rfl; cases hc)
  have hsign : takeSign (c :: s) = (false, c :: s) := by
    rw [takeSign]
    · exact fun _ h => hplain.1 (List.cons.inj h).1
    · exact fun _ h => hplain.2.1 (List.cons.inj h).1
  have hwhole : takeDigits (c :: s) = ([], c :: s) := by
    rw [takeDigits, digitValue?_of_isAsciiNameStart hc]
  rw [readLiteral?, hsign]
  simp only [hwhole]
  split
  · rename_i heq
    exact absurd (List.cons.inj heq).1 hplain.2.2
  · rfl

/-- A character of literals is a digit or one of five others. -/
theorem ne_of_isLiteralChar {c d : Char} (hc : IsLiteralChar c) (hdigit : isDecimalDigit d = false)
    (hd : d ∉ ['+', '-', '.', 'e', 'E']) : c ≠ d := by
  rintro rfl
  rcases hc with hc | hc
  · rw [hdigit] at hc
    cases hc
  · exact hd hc

/-- No character of a literal is blank. -/
theorem isBlank_of_isLiteralChar {c : Char} (hc : IsLiteralChar c) : isBlank c = false := by
  refine Bool.eq_false_iff.mpr fun hblank => ?_
  rcases hc with hc | hc
  · have hnot : isDecimalDigit c = false :=
      forall_blank (p := fun c => isDecimalDigit c = false) (by decide +kernel) hblank
    rw [hc] at hnot
    cases hnot
  · have hall : ['+', '-', '.', 'e', 'E'].all (fun c => !isBlank c) = true := by decide
    have hnot := List.all_eq_true.mp hall c hc
    rw [hblank] at hnot
    cases hnot

/-! ## Digits begin no name -/

/-- Walks along the bounds of a class, in pairs, and the zeros: whether no pair reaches into the ten
characters from a zero on. -/
def tensOutside : List Nat → List Nat → Bool
  | lower :: upper :: bounds, zeros =>
    let behind := zeros.dropWhile fun z => z + 10 ≤ lower
    behind.head?.all (fun z => upper ≤ z) && tensOutside bounds behind
  | bounds, _ => bounds.isEmpty

/-- A bound of the first of sorted numbers is one of all. -/
theorem le_of_head?_all {upper z : Nat} {zeros : List Nat} (hzeros : zeros.Pairwise (· ≤ ·))
    (h : zeros.head?.all (fun z => upper ≤ z) = true) (hz : z ∈ zeros) : upper ≤ z := by
  cases zeros with
  | nil => cases hz
  | cons first others =>
      have hfirst : upper ≤ first := of_decide_eq_true h
      rcases List.mem_cons.mp hz with rfl | hz
      · exact hfirst
      · exact Nat.le_trans hfirst (List.rel_of_pairwise_cons hzeros hz)

/-- An even number of bounds lies before a zero, and none among the ten characters from it on. -/
theorem even_countP_of_tensOutside {bounds zeros : List Nat} (h : tensOutside bounds zeros = true)
    (hbounds : bounds.Pairwise (· ≤ ·)) (hzeros : zeros.Pairwise (· ≤ ·)) {z n : Nat}
    (hz : z ∈ zeros) (hle : z ≤ n) (hlt : n < z + 10) : bounds.countP (· ≤ n) % 2 = 0 := by
  fun_induction tensOutside bounds zeros with
  | case1 lower upper bounds zeros behind ih =>
      obtain ⟨hupper, hbehind⟩ := (Bool.and_eq_true _ _).mp h
      have hsorted : behind.Pairwise (· ≤ ·) := hzeros.sublist (List.dropWhile_sublist _)
      obtain ⟨hlower, hrest⟩ := List.pairwise_cons.mp hbounds
      rw [← List.takeWhile_append_dropWhile (l := zeros), List.mem_append] at hz
      rcases hz with hz | hz
      · -- the pair lies behind the ten characters, and so do all the others
        have hapart := List.mem_takeWhile_imp (p := fun z => decide (z + 10 ≤ lower)) hz
        have hnone : (lower :: upper :: bounds).countP (· ≤ n) = 0 := by
          rw [List.countP_eq_zero]
          intro bound hbound
          have hge : lower ≤ bound := by
            rcases List.mem_cons.mp hbound with rfl | hbound
            · exact Nat.le_refl _
            · exact hlower bound hbound
          have hlt := of_decide_eq_true hapart
          rw [decide_eq_true_eq]
          omega
        rw [hnone]
      · -- the pair lies before them
        have hleft : upper ≤ z := le_of_head?_all hsorted hupper hz
        have hpair : lower ≤ upper := hlower upper List.mem_cons_self
        have heven := ih hbehind (List.pairwise_cons.mp hrest).2 hsorted hz
        have hlower : lower ≤ n := Nat.le_trans hpair (Nat.le_trans hleft hle)
        have hupper : upper ≤ n := Nat.le_trans hleft hle
        rw [List.countP_cons, List.countP_cons, decide_eq_true hlower, decide_eq_true hupper]
        omega
  | case2 bounds =>
      rw [List.isEmpty_iff.mp h]
      rfl

theorem pairwise_nameStartBounds : nameStartBounds.Pairwise (· ≤ ·) :=
  List.isChain_iff_pairwise.mp (by decide +kernel)

theorem pairwise_decimalZeros : decimalZeros.Pairwise (· ≤ ·) :=
  List.isChain_iff_pairwise.mp (by decide +kernel)

/-- No digit of any script begins a name. -/
theorem isNameStart_of_isDecimalDigit {c : Char} (hc : isDecimalDigit c = true) :
    isNameStart c = false := by
  rw [isDecimalDigit, digitValue?] at hc
  rw [isNameStart]
  split
  · rename_i hascii
    rw [if_pos hascii] at hc
    refine Bool.eq_false_iff.mpr fun hstart => ?_
    rw [isDigit_of_isAsciiNameStart hstart] at hc
    cases hc
  · rename_i hascii
    rw [if_neg hascii, Option.isSome_map, List.find?_isSome] at hc
    obtain ⟨z, hz, hten⟩ := hc
    rw [Bool.and_eq_true, decide_eq_true_eq, decide_eq_true_eq] at hten
    have heven := even_countP_of_tensOutside (by decide +kernel) pairwise_nameStartBounds
      pairwise_decimalZeros hz hten.1 hten.2
    rw [inClass, heven]
    rfl

end SignalLab.Text
