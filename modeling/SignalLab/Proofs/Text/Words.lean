import Mathlib
import SignalLab.Text.Basic

/-!
# Words — texts of words with blanks between them

A text is cut into words from left to right: a blank belongs to no word, and a word goes up to the next
blank (`words_append`).  What occurs in a text is a stretch of it (`includes_iff`), so that nothing
occurs across a character that it does not have (`includes_append_cons`): what has no blank in it
occurs in one of the words.  A text mentions a word if that occurs in it but for the case of its
letters (`includes_lowerAscii_iff`).
-/

namespace SignalLab.Text

/-! ## Cutting -/

/-- A word is read up to the next blank. -/
theorem words_go_append {read w s : Text} (hw : ∀ c ∈ w, isBlank c = false) (hread : read ++ w ≠ [])
    (hs : ∀ c, s.head? = some c → isBlank c = true) :
    words.go read (w ++ s) = (read.reverse ++ w) :: words s := by
  induction w generalizing read with
  | nil =>
      have hne : read.isEmpty = false := by
        rwa [List.append_nil, ← List.isEmpty_eq_false_iff] at hread
      rw [List.nil_append, List.append_nil]
      cases s with
      | nil =>
          rw [words.go, hne]
          rfl
      | cons c s =>
          rw [words.go, hs c rfl, hne, words, words.go, hs c rfl]
          rfl
  | cons c w ih =>
      have hc : isBlank c = false := hw c List.mem_cons_self
      rw [List.cons_append, words.go, hc, if_neg (by decide),
        ih (fun d hd => hw d (List.mem_cons_of_mem _ hd)) (by simp)]
      simp

theorem words_append {w s : Text} (hne : w ≠ []) (hw : ∀ c ∈ w, isBlank c = false)
    (hs : ∀ c, s.head? = some c → isBlank c = true) : words (w ++ s) = w :: words s :=
  @words_go_append [] w s hw hne hs

/-- Blanks in front belong to no word. -/
theorem words_blanks_append {gap : Text} (hgap : ∀ c ∈ gap, isBlank c = true) (s : Text) :
    words (gap ++ s) = words s := by
  induction gap with
  | nil => rfl
  | cons c gap ih =>
      have hc : isBlank c = true := hgap c List.mem_cons_self
      rw [← ih fun d hd => hgap d (List.mem_cons_of_mem _ hd), List.cons_append, words, words.go, hc]
      rfl

/-! ## Occurrences -/

theorem includes_iff {part s : Text} : includes part s = true ↔ part <:+: s := by
  induction s with
  | nil => rw [includes, List.isEmpty_iff, List.infix_nil]
  | cons c s ih =>
      rw [includes, Bool.or_eq_true, List.isPrefixOf_iff_prefix, ih, List.infix_cons_iff]

/-- Nothing occurs across a character that it does not have. -/
theorem includes_append_cons {part : Text} {c : Char} (hc : c ∉ part) (s t : Text) :
    includes part (s ++ c :: t) = (includes part s || includes part t) := by
  have hprefix : ∀ s : Text, part.isPrefixOf (s ++ c :: t) = part.isPrefixOf s := by
    intro s
    rw [Bool.eq_iff_iff, List.isPrefixOf_iff_prefix, List.isPrefixOf_iff_prefix]
    refine ⟨fun h => ?_, fun h => h.trans (List.prefix_append _ _)⟩
    rcases List.prefix_or_prefix_of_prefix h (List.prefix_append s (c :: t)) with h | ⟨u, rfl⟩
    · exact h
    · cases u with
      | nil => exact ⟨[], by rw [List.append_nil, List.append_nil]⟩
      | cons d u =>
          rw [List.prefix_append_right_inj, List.cons_prefix_cons] at h
          exact absurd (h.1 ▸ List.mem_append_right _ List.mem_cons_self) hc
  induction s with
  | nil =>
      rw [List.nil_append, includes, includes]
      have hnil := hprefix []
      rw [List.nil_append] at hnil
      rw [hnil]
      cases part <;> rfl
  | cons d s ih =>
      rw [List.cons_append, includes, includes, ih, ← List.cons_append, hprefix, Bool.or_assoc]

/-- Nothing occurs partly in characters that it does not have. -/
theorem includes_gap_append {part gap : Text} (hne : part ≠ []) (hgap : ∀ c ∈ gap, c ∉ part)
    (s : Text) : includes part (gap ++ s) = includes part s := by
  have hnil : includes part [] = false := List.isEmpty_eq_false_iff.mpr hne
  induction gap with
  | nil => rfl
  | cons c gap ih =>
      rw [List.cons_append, ← List.nil_append (c :: _), includes_append_cons (hgap c List.mem_cons_self),
        hnil, Bool.false_or, ih fun d hd => hgap d (List.mem_cons_of_mem _ hd)]

theorem includes_append {part s : Text} (hne : part ≠ []) (hs : ∀ c, s.head? = some c → c ∉ part)
    (w : Text) : includes part (w ++ s) = (includes part w || includes part s) := by
  cases s with
  | nil =>
      have hnil : includes part [] = false := List.isEmpty_eq_false_iff.mpr hne
      rw [List.append_nil, hnil, Bool.or_false]
  | cons c s =>
      have hc : c ∉ part := hs c rfl
      have hgap : includes part ([c] ++ s) = includes part s :=
        includes_gap_append hne (List.forall_mem_singleton.mpr hc) s
      rw [includes_append_cons hc, ← hgap, List.singleton_append]

/-! ## Letters of either case -/

/-- Whether a text is a word but for the case of its letters. -/
def IsCased (word part : Text) : Prop :=
  List.Forall₂ (fun l c => c = l ∨ c = l.toUpper) word part

/-- Whether a text has a word in it, in letters of either case. -/
def Mentions (word s : Text) : Prop :=
  ∃ part, part <:+: s ∧ IsCased word part

/-- The letters that are a small one in lower case: itself and its capital. -/
theorem toLower_eq_iff {c l : Char} (hl : l.isLower = true) :
    c.toLower = l ↔ c = l ∨ c = l.toUpper := by
  have hsmall : l.toLower = l :=
    Char.toLower_eq_of_not_isUpper fun hupper => Char.not_isLower_of_isUpper hupper hl
  constructor
  · intro h
    by_cases hupper : c.isUpper = true
    · refine .inr ?_
      rw [← h, Char.toUpper_toLower_eq_toUpper]
      exact (Char.toUpper_eq_of_not_isLower (Char.not_isLower_of_isUpper hupper)).symm
    · exact .inl ((Char.toLower_eq_of_not_isUpper hupper).symm.trans h)
  · rintro (rfl | rfl)
    · exact hsmall
    · rw [Char.toLower_toUpper_eq_toLower, hsmall]

theorem isCased_iff {word : Text} (hword : ∀ l ∈ word, l.isLower = true) (part : Text) :
    IsCased word part ↔ lowerAscii part = word := by
  induction word generalizing part with
  | nil =>
      rw [IsCased, List.forall₂_nil_left_iff, lowerAscii, List.map_eq_nil_iff]
  | cons l word ih =>
      obtain ⟨hl, hrest⟩ := List.forall_mem_cons.mp hword
      cases part with
      | nil => exact ⟨nofun, nofun⟩
      | cons c part =>
          rw [IsCased, List.forall₂_cons, ← toLower_eq_iff hl]
          show _ ∧ IsCased word part ↔ c.toLower :: lowerAscii part = l :: word
          rw [ih hrest, List.cons.injEq]

/-- What a text mentions is in the text that is put in lower case. -/
theorem includes_lowerAscii_iff {word : Text} (hword : ∀ l ∈ word, l.isLower = true) (s : Text) :
    includes word (lowerAscii s) = true ↔ Mentions word s := by
  rw [includes_iff, lowerAscii, List.infix_map_iff, Mentions]
  refine exists_congr fun part => and_congr_right fun _ => ?_
  rw [isCased_iff hword]
  exact eq_comm

end SignalLab.Text
