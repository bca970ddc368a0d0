import SignalLab.Text.Pattern

/-!
# Calls — what the readers of calls find

The readers of `SignalLab.Text.Pattern` return what is left behind the thing they read.  Here each
of them is said by concatenation: a reader succeeds exactly if the text is the thing it reads followed
by the rest it returns, and a search succeeds exactly if the text can be cut in two so that the
reader succeeds on the second part.  A blank is no word character, so a word may begin after it.
-/

namespace SignalLab.Text

/-! ## Blanks and word characters -/

/-- The code points of the blanks. -/
def blankPoints : List Nat :=
  [9, 10, 11, 12, 13, 28, 29, 30, 31, 32, 0x85, 0xA0, 0x1680, 0x2000, 0x2001, 0x2002, 0x2003,
    0x2004, 0x2005, 0x2006, 0x2007, 0x2008, 0x2009, 0x200A, 0x2028, 0x2029, 0x202F, 0x205F, 0x3000]

theorem toNat_mem_blankPoints {c : Char} (h : isBlank c = true) : c.toNat ∈ blankPoints := by
  simp only [isBlank, Bool.or_eq_true, Bool.and_eq_true, decide_eq_true_eq, beq_iff_eq] at h
  simp only [blankPoints, List.mem_cons, List.not_mem_nil, or_false]
  omega

/-- What holds of the characters at all these points holds of every blank. -/
theorem forall_blank {p : Char → Prop} (h : ∀ n ∈ blankPoints, p (Char.ofNat n)) {c : Char}
    (hc : isBlank c = true) : p c := by
  have hpoint := h c.toNat (toNat_mem_blankPoints hc)
  rwa [Char.ofNat_toNat] at hpoint

/-- No blank is a character of words. -/
theorem isWordChar_of_isBlank {c : Char} (h : isBlank c = true) : isWordChar c = false :=
  forall_blank (p := fun c => isWordChar c = false) (by decide +kernel) h

theorem isBlank_of_isWordChar {c : Char} (h : isWordChar c = true) : isBlank c = false := by
  refine Bool.eq_false_iff.mpr fun hblank => ?_
  rw [isWordChar_of_isBlank hblank] at h
  cases h

/-! ## At the front -/

/-- What stands behind a lead. -/
theorem after?_eq_some_iff {lead s rest : Text} : after? lead s = some rest ↔ s = lead ++ rest := by
  rw [after?]
  constructor
  · intro h
    split at h
    · rename_i hlead
      obtain ⟨t, rfl⟩ := List.isPrefixOf_iff_prefix.mp hlead
      cases h
      rw [List.drop_left]
    · cases h
  · rintro rfl
    rw [if_pos (List.isPrefixOf_iff_prefix.mpr (List.prefix_append _ _)), List.drop_left]

/-- What stands behind blanks and a character. -/
theorem afterBlanks?_eq_some_iff {c : Char} (hc : isBlank c = false) {s rest : Text} :
    afterBlanks? c s = some rest ↔
      ∃ blanks, (∀ b ∈ blanks, isBlank b = true) ∧ s = blanks ++ c :: rest := by
  rw [afterBlanks?, trimLeft]
  constructor
  · intro h
    split at h
    · cases h
    · rename_i d rest' heq
      split at h
      · rename_i hd
        cases h
        refine ⟨s.takeWhile isBlank, List.all_eq_true.mp List.all_takeWhile, ?_⟩
        rw [← hd, ← heq, List.takeWhile_append_dropWhile]
      · cases h
  · rintro ⟨blanks, hblanks, rfl⟩
    rw [List.dropWhile_append_of_pos hblanks, List.dropWhile_cons_of_neg (by rw [hc]; decide)]
    exact if_pos rfl

/-- A call at the front: the word, blanks, and the opening parenthesis. -/
theorem afterCall?_eq_some_iff {word : String} {s rest : Text} :
    afterCall? word s = some rest ↔
      ∃ blanks, (∀ b ∈ blanks, isBlank b = true) ∧
        s = word.toList ++ (blanks ++ '(' :: rest) := by
  have hparenthesis : isBlank '(' = false := by decide
  rw [afterCall?]
  constructor
  · intro h
    split at h
    · rename_i behind heq
      obtain ⟨blanks, hblanks, rfl⟩ := (afterBlanks?_eq_some_iff hparenthesis).mp h
      exact ⟨blanks, hblanks, after?_eq_some_iff.mp heq⟩
    · cases h
  · rintro ⟨blanks, hblanks, rfl⟩
    rw [after?_eq_some_iff.mpr rfl]
    exact (afterBlanks?_eq_some_iff hparenthesis).mpr ⟨blanks, hblanks, rfl⟩

/-! ## Anywhere -/

/-- What is before a place does not depend on what is before the first character. -/
theorem getLast?_cons_or (c : Char) (front : Text) (before : Option Char) :
    (c :: front).getLast?.or before = front.getLast?.or (some c) := by
  rw [List.getLast?_cons, Option.some_or, Option.or_some]

/-- A search finds something exactly if it is there behind some front of the text. -/
theorem isSome_search_iff {α : Type} {f : Option Char → Text → Option α} {before : Option Char}
    {s : Text} :
    (search f before s).isSome = true ↔
      ∃ front rest, s = front ++ rest ∧ (f (front.getLast?.or before) rest).isSome = true := by
  induction s generalizing before with
  | nil =>
      rw [search]
      constructor
      · intro h
        exact ⟨[], [], rfl, h⟩
      · rintro ⟨front, rest, hsplit, h⟩
        obtain ⟨rfl, rfl⟩ := List.append_eq_nil_iff.mp hsplit.symm
        exact h
  | cons c s ih =>
      rw [search]
      cases hfirst : f before (c :: s) with
      | some found =>
          refine iff_of_true rfl ⟨[], c :: s, rfl, ?_⟩
          rw [List.getLast?_nil, Option.none_or, hfirst]
          rfl
      | none =>
          refine ih.trans ⟨?_, ?_⟩
          · rintro ⟨front, rest, rfl, h⟩
            refine ⟨c :: front, rest, rfl, ?_⟩
            rwa [getLast?_cons_or]
          · rintro ⟨front, rest, hsplit, h⟩
            -- nothing is found at the very front, so the front is not empty
            rcases List.cons_eq_append_iff.mp hsplit with ⟨rfl, rfl⟩ | ⟨front', rfl, rfl⟩
            · rw [List.getLast?_nil, Option.none_or, hfirst] at h
              cases h
            · refine ⟨front', rest, rfl, ?_⟩
              rwa [getLast?_cons_or] at h

end SignalLab.Text
