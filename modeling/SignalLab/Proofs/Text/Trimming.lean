import SignalLab.Program.Execution

/-!
# Trimming — what is left of a text that is not blank

A text that is not blank keeps a character that is not blank when it is trimmed, and so has a word.
The statements of a line are trimmed pieces that are not blank; none of them is the blank statement.
-/

namespace SignalLab

namespace Text

theorem isBlankText_eq_false_iff {s : Text} :
    isBlankText s = false ↔ ∃ c ∈ s, isBlank c = false := by
  simp [isBlankText]

/-- What does not fit is not dropped. -/
theorem mem_dropWhile_of_not {p : Char → Bool} {s : Text} {c : Char} (hmem : c ∈ s)
    (hc : p c = false) : c ∈ s.dropWhile p := by
  rw [← List.takeWhile_append_dropWhile (p := p) (l := s)] at hmem
  rcases List.mem_append.mp hmem with h | h
  · have htrue : p c = true := List.all_eq_true.mp List.all_takeWhile c h
    rw [hc] at htrue
    cases htrue
  · exact h

/-- Trimming removes blanks only. -/
theorem mem_trim_of_not_blank {s : Text} {c : Char} (hmem : c ∈ s) (hc : isBlank c = false) :
    c ∈ trim s := by
  rw [trim, trimRight, List.mem_reverse]
  refine mem_dropWhile_of_not (List.mem_reverse.mpr ?_) hc
  exact mem_dropWhile_of_not hmem hc

/-- A text is blank if all its characters are. -/
theorem isBlankText_iff {s : Text} : isBlankText s = true ↔ ∀ c ∈ s, isBlank c = true :=
  List.all_eq_true

/-- Trimming at the back cuts off blanks. -/
theorem exists_eq_trimRight_append (s : Text) :
    ∃ back, isBlankText back = true ∧ s = trimRight s ++ back := by
  refine ⟨(s.reverse.takeWhile isBlank).reverse, ?_, ?_⟩
  · rw [isBlankText, List.all_reverse]
    exact List.all_takeWhile
  · rw [trimRight, ← List.reverse_append, List.takeWhile_append_dropWhile, List.reverse_reverse]

/-- Trimming cuts off blanks in front and behind. -/
theorem exists_eq_append_trim_append (s : Text) :
    ∃ front back, isBlankText front = true ∧ isBlankText back = true ∧
      s = front ++ (trim s ++ back) := by
  obtain ⟨back, hback, hleft⟩ := exists_eq_trimRight_append (trimLeft s)
  refine ⟨s.takeWhile isBlank, back, List.all_takeWhile, hback, ?_⟩
  rw [trim, ← hleft, trimLeft, List.takeWhile_append_dropWhile]

/-- Only blanks stand in front of a trimmed text. -/
theorem exists_eq_append_trim (s : Text) :
    ∃ front back, s = front ++ (trim s ++ back) ∧ ∀ c ∈ front, isBlank c = true := by
  obtain ⟨front, back, hfront, -, hs⟩ := exists_eq_append_trim_append s
  exact ⟨front, back, hs, isBlankText_iff.mp hfront⟩

/-- Trimming adds nothing. -/
theorem mem_of_mem_trim {s : Text} {c : Char} (h : c ∈ trim s) : c ∈ s := by
  obtain ⟨front, back, hs, -⟩ := exists_eq_append_trim s
  rw [hs]
  simp [h]

/-- Trimming at the back keeps the first character that is not blank. -/
theorem head?_trim (s : Text) : (trim s).head? = (trimLeft s).head? := by
  rw [trim, trimRight]
  cases h : trimLeft s with
  | nil => rfl
  | cons c t =>
      have hc : isBlank c = false := by
        have hhead := List.head?_dropWhile_not isBlank s
        rw [← trimLeft, h] at hhead
        exact hhead
      have hlast : [c].dropWhile isBlank = [c] := by
        rw [List.dropWhile_cons_of_neg (by rw [hc]; decide)]
      rw [List.reverse_cons, List.dropWhile_append, hlast, List.head?_reverse]
      split
      · rfl
      · exact List.getLast?_concat

/-- A trimmed text does not begin with a blank. -/
theorem isBlank_of_head?_trim {s : Text} {c : Char} (h : (trim s).head? = some c) :
    isBlank c = false := by
  have hhead := List.head?_dropWhile_not isBlank s
  rw [← trimLeft, ← head?_trim, h] at hhead
  exact hhead

/-- Neither does it end with one. -/
theorem isBlank_of_getLast?_trim {s : Text} {c : Char} (h : (trim s).getLast? = some c) :
    isBlank c = false := by
  have hhead := List.head?_dropWhile_not isBlank (trimLeft s).reverse
  rw [trim, trimRight, List.getLast?_reverse] at h
  rw [h] at hhead
  exact hhead

/-- A text that does not begin with a blank loses nothing at the front. -/
theorem trimLeft_eq_self {s : Text} (hfirst : ∀ c, s.head? = some c → isBlank c = false) :
    trimLeft s = s := by
  cases s with
  | nil => rfl
  | cons c s => exact List.dropWhile_cons_of_neg (by rw [hfirst c rfl]; decide)

/-- A text that neither begins nor ends with a blank stays as it is. -/
theorem trim_eq_self {s : Text} (hfirst : ∀ c, s.head? = some c → isBlank c = false)
    (hlast : ∀ c, s.getLast? = some c → isBlank c = false) : trim s = s := by
  have hreverse : trimLeft s.reverse = s.reverse := by
    refine trimLeft_eq_self fun c hc => hlast c ?_
    rwa [List.head?_reverse] at hc
  rw [trimLeft] at hreverse
  rw [trim, trimRight, trimLeft_eq_self hfirst, hreverse, List.reverse_reverse]

/-- Trimming twice is trimming once. -/
theorem trim_trim (s : Text) : trim (trim s) = trim s :=
  trim_eq_self (fun _ => isBlank_of_head?_trim) fun _ => isBlank_of_getLast?_trim

/-- A text without blanks is trimmed already. -/
theorem trim_of_no_blank {s : Text} (h : ∀ c ∈ s, isBlank c = false) : trim s = s :=
  trim_eq_self (fun c hc => h c (List.mem_of_head? hc)) (fun c hc => h c (List.mem_of_getLast? hc))

/-! ## Blanks around a text -/

/-- Blanks at the end make no difference. -/
theorem trimRight_append_blanks {back : Text} (hback : isBlankText back = true) (s : Text) :
    trimRight (s ++ back) = trimRight s := by
  have hreverse : ∀ c ∈ back.reverse, isBlank c = true :=
    fun c hc => isBlankText_iff.mp hback c (List.mem_reverse.mp hc)
  rw [trimRight, List.reverse_append, List.dropWhile_append_of_pos hreverse, trimRight]

/-- Neither do blanks at the front. -/
theorem trimLeft_blanks_append {front : Text} (hfront : isBlankText front = true) (s : Text) :
    trimLeft (front ++ s) = trimLeft s :=
  List.dropWhile_append_of_pos (isBlankText_iff.mp hfront)

/-- A text is trimmed to the same whatever blanks stand behind it. -/
theorem trim_append_blanks {back : Text} (hback : isBlankText back = true) (s : Text) :
    trim (s ++ back) = trim s := by
  have hnil : trimLeft back = [] := by
    rw [← List.append_nil back, trimLeft_blanks_append hback]
    rfl
  rw [trim, trim, trimLeft, List.dropWhile_append]
  split
  · rename_i hempty
    rw [trimLeft, List.isEmpty_iff.mp hempty]
    exact congrArg trimRight hnil
  · exact trimRight_append_blanks hback _

theorem trimRight_cons {c : Char} (hc : isBlank c = false) (s : Text) :
    trimRight (c :: s) = c :: trimRight s := by
  have hlast : [c].dropWhile isBlank = [c] := List.dropWhile_cons_of_neg (by rw [hc]; decide)
  rw [trimRight, List.reverse_cons, List.dropWhile_append, hlast]
  split
  · rename_i hempty
    rw [trimRight, List.isEmpty_iff.mp hempty]
    rfl
  · rw [List.reverse_append, trimRight]
    rfl

/-- Trimming leaves what begins behind blanks, without the blanks at its end. -/
theorem trim_blanks_append {front : Text} (hfront : isBlankText front = true) {c : Char}
    (hc : isBlank c = false) (s : Text) : trim (front ++ c :: s) = c :: trimRight s := by
  rw [trim, trimLeft_blanks_append hfront, trimLeft_eq_self fun d hd => by cases hd; exact hc,
    trimRight_cons hc]

/-- Exactly the blank texts are trimmed to nothing. -/
theorem trim_eq_nil_iff {s : Text} : trim s = [] ↔ isBlankText s = true := by
  constructor
  · intro h
    cases hblank : isBlankText s with
    | true => rfl
    | false =>
        obtain ⟨c, hmem, hc⟩ := isBlankText_eq_false_iff.mp hblank
        have hkept := mem_trim_of_not_blank hmem hc
        rw [h] at hkept
        cases hkept
  · intro h
    have hnil := trim_append_blanks h []
    rwa [List.nil_append] at hnil

/-- A text that is not blank is not blank when it is trimmed. -/
theorem isBlankText_trim {s : Text} (h : isBlankText s = false) : isBlankText (trim s) = false := by
  obtain ⟨c, hmem, hc⟩ := isBlankText_eq_false_iff.mp h
  exact isBlankText_eq_false_iff.mpr ⟨c, mem_trim_of_not_blank hmem hc, hc⟩

/-- A text without words is blank, and no word was begun before it. -/
theorem isBlankText_of_words_go {word s : Text} (h : words.go word s = []) :
    word = [] ∧ isBlankText s = true := by
  induction s generalizing word with
  | nil =>
      rw [words.go] at h
      split at h
      · rename_i hempty
        exact ⟨List.isEmpty_iff.mp hempty, rfl⟩
      · cases h
  | cons c s ih =>
      rw [words.go] at h
      split at h
      · rename_i hblank
        split at h
        · rename_i hempty
          refine ⟨List.isEmpty_iff.mp hempty, ?_⟩
          rw [isBlankText, List.all_cons, hblank]
          exact (ih h).2
        · cases h
      · have hcons := (ih h).1
        cases hcons

/-- A text that is not blank has a word. -/
theorem words_ne_nil {s : Text} (h : isBlankText s = false) : words s ≠ [] := by
  intro hwords
  rw [(isBlankText_of_words_go hwords).2] at h
  cases h

end Text

namespace Statement

open Text

/-- A command that cleans up does something. -/
theorem cleanup?_ne_blank (command : Text) (names : List Text) :
    cleanup? command names ≠ some .blank := by
  rw [cleanup?]
  split
  · split <;> simp
  · split
    · simp
    · split <;> simp

/-- A text that is not blank is not the blank statement. -/
theorem ofText_ne_blank {s : Text} (h : isBlankText s = false) : ofText s ≠ .blank := by
  rw [ofText]
  split
  · simp
  · split
    · simp
    · split
      · simp
      · rw [ofWords]
        split
        · rename_i hwords
          exact absurd hwords (words_ne_nil h)
        · rename_i command rest hwords
          cases hclean : cleanup? command (words (substitute ',' [' '] s)).tail with
          | none => simp
          | some t =>
              intro heq
              rw [Option.getD_some] at heq
              exact cleanup?_ne_blank _ _ (heq ▸ hclean)

/-- No statement of a line is blank. -/
theorem isBlankText_of_mem_split {line s : Text} (h : s ∈ split line) : isBlankText s = false := by
  rw [split, List.mem_filterMap] at h
  obtain ⟨piece, -, hpiece⟩ := h
  split at hpiece
  · cases hpiece
  · rename_i hnot
    cases hpiece
    exact isBlankText_trim (by simpa using hnot)

end Statement

end SignalLab
