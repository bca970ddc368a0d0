import SignalLab.Number.Reading
import SignalLab.Proofs.Text.Calls

/-!
# First matches — where a search stops

A search finds what its reader reads behind the shortest front of the text
(`Text.search_eq_some_iff`).  The digits at the front of a text are read up to the first character
that is no digit (`Text.takeDigits_isDigits`, `Text.IsDigits.takeDigits_eq`).
-/

namespace SignalLab.Text

/-! ## Searches -/

/-- The text is cut in two where the reader finds something, and nowhere before. -/
structure IsFirstMatch {α : Type} (f : Option Char → Text → Option α) (before : Option Char)
    (s front rest : Text) (found : α) : Prop where
  split : s = front ++ rest
  read : f (front.getLast?.or before) rest = some found
  none_before : ∀ front' rest', s = front' ++ rest' → front'.length < front.length →
    f (front'.getLast?.or before) rest' = none

section Search

variable {α : Type} {f : Option Char → Text → Option α} {before : Option Char} {s : Text}
  {found : α}

/-- Two first matches of a text are the same. -/
theorem IsFirstMatch.unique {front front' rest rest' : Text} {found' : α}
    (h : IsFirstMatch f before s front rest found)
    (h' : IsFirstMatch f before s front' rest' found') : front = front' ∧ found = found' := by
  have hlength : front.length = front'.length := by
    rcases Nat.lt_trichotomy front.length front'.length with hlt | heq | hgt
    · have hnone := h'.none_before front rest h.split hlt
      rw [h.read] at hnone
      cases hnone
    · exact heq
    · have hnone := h.none_before front' rest' h'.split hgt
      rw [h'.read] at hnone
      cases hnone
  obtain ⟨rfl, rfl⟩ := List.append_inj (h.split.symm.trans h'.split) hlength
  exact ⟨rfl, Option.some.inj (h.read.symm.trans h'.read)⟩

/-- A match behind the first character is the first one if there is none at the front. -/
theorem IsFirstMatch.cons {c : Char} {front rest : Text} (hnone : f before (c :: s) = none)
    (h : IsFirstMatch f (some c) s front rest found) :
    IsFirstMatch f before (c :: s) (c :: front) rest found where
  split := congrArg (c :: ·) h.split
  read := by
    rw [getLast?_cons_or]
    exact h.read
  none_before front' rest' hsplit hlt := by
    rcases List.cons_eq_append_iff.mp hsplit with ⟨rfl, rfl⟩ | ⟨front'', rfl, hrest⟩
    · exact hnone
    · rw [getLast?_cons_or]
      exact h.none_before front'' rest' hrest (Nat.lt_of_succ_lt_succ hlt)

/-- What a search finds is the first match. -/
theorem exists_isFirstMatch (h : search f before s = some found) :
    ∃ front rest, IsFirstMatch f before s front rest found := by
  induction s generalizing before with
  | nil =>
      refine ⟨[], [], rfl, h, fun front' rest' hsplit hlt => ?_⟩
      exact absurd hlt (Nat.not_lt_zero _)
  | cons c s ih =>
      rw [search] at h
      split at h
      · rename_i hfirst
        refine ⟨[], c :: s, rfl, ?_, fun front' rest' hsplit hlt => absurd hlt (Nat.not_lt_zero _)⟩
        rw [← h]
        exact hfirst
      · rename_i hfirst
        obtain ⟨front, rest, hmatch⟩ := ih h
        exact ⟨c :: front, rest, hmatch.cons hfirst⟩

/-- A search finds what is read at the first match. -/
theorem search_eq_some_iff :
    search f before s = some found ↔ ∃ front rest, IsFirstMatch f before s front rest found := by
  constructor
  · exact exists_isFirstMatch
  · rintro ⟨front, rest, h⟩
    have hsome : (search f before s).isSome = true := by
      refine isSome_search_iff.mpr ⟨front, rest, h.split, ?_⟩
      rw [h.read]
      rfl
    obtain ⟨found', hfound⟩ := Option.isSome_iff_exists.mp hsome
    obtain ⟨front', rest', h'⟩ := exists_isFirstMatch hfound
    rw [hfound, (h.unique h').2]

/-- A search finds nothing exactly if nothing is read behind any front. -/
theorem search_eq_none_iff :
    search f before s = none ↔
      ∀ front rest, s = front ++ rest → f (front.getLast?.or before) rest = none := by
  rw [← Option.not_isSome_iff_eq_none, isSome_search_iff]
  constructor
  · intro h front rest hsplit
    rw [← Option.not_isSome_iff_eq_none]
    exact fun hsome => h ⟨front, rest, hsplit, hsome⟩
  · rintro h ⟨front, rest, hsplit, hsome⟩
    rw [h front rest hsplit] at hsome
    cases hsome

end Search

/-! ## Digits -/

/-- No blank is a digit. -/
theorem isDecimalDigit_of_isBlank {c : Char} (h : isBlank c = true) : isDecimalDigit c = false :=
  forall_blank (p := fun c => isDecimalDigit c = false) (by decide +kernel) h

/-- Written digits, all of them: behind them the text ends or goes on with another character. -/
structure IsDigits (s written rest : Text) (digits : List Nat) : Prop where
  split : s = written ++ rest
  values : written.map digitValue? = digits.map some
  ends : ∀ c ∈ rest.head?, isDecimalDigit c = false

/-- What is taken for digits are digits. -/
theorem takeDigits_isDigits (s : Text) :
    ∃ written, IsDigits s written (takeDigits s).2 (takeDigits s).1 := by
  induction s with
  | nil => exact ⟨[], rfl, rfl, nofun⟩
  | cons c s ih =>
      rw [takeDigits]
      split
      · rename_i d hd
        obtain ⟨written, hsplit, hvalues, hends⟩ := ih
        refine ⟨c :: written, congrArg (c :: ·) hsplit, ?_, hends⟩
        rw [List.map_cons, hd, hvalues]
        rfl
      · rename_i hd
        refine ⟨[], rfl, rfl, fun c' hc' => ?_⟩
        cases hc'
        rw [isDecimalDigit, hd]
        rfl

/-- Digits are taken up to the first character that is none. -/
theorem IsDigits.takeDigits_eq {s written rest : Text} {digits : List Nat}
    (h : IsDigits s written rest digits) : takeDigits s = (digits, rest) := by
  obtain ⟨rfl, hvalues, hends⟩ := h
  induction written generalizing digits with
  | nil =>
      obtain rfl : digits = [] := List.map_eq_nil_iff.mp hvalues.symm
      cases rest with
      | nil => rfl
      | cons c s =>
          have hnone : digitValue? c = none := by
            rw [← Option.not_isSome_iff_eq_none, Bool.not_eq_true]
            exact hends c rfl
          rw [List.nil_append, takeDigits, hnone]
  | cons c written ih =>
      obtain ⟨d, digits, rfl, hd, hrest⟩ := List.map_eq_cons_iff.mp hvalues.symm
      rw [List.cons_append, takeDigits, ← hd, ih hrest.symm]

end SignalLab.Text
