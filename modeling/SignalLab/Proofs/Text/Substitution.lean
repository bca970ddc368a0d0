import SignalLab.Text.Literal

/-!
# Substitution — characters written twice, and escapes

A character that has a meaning of its own in some notation is written twice there, or behind a
backslash.  Reading undoes this from left to right: a pair is one character again
(`substitutePair_doubled`), and an escape is what it stands for (`unescape_escapeText`).  Both are
stated for a text with more behind it, so that a reader may be followed across its pieces.
-/

namespace SignalLab.Text

/-! ## Characters written twice -/

/-- The text with a character written twice wherever it occurs. -/
def doubled (q : Char) (s : Text) : Text :=
  substitute q [q, q] s

theorem doubled_nil (q : Char) : doubled q [] = [] := rfl

theorem doubled_cons_self (q : Char) (s : Text) : doubled q (q :: s) = q :: q :: doubled q s := by
  simp [doubled, substitute]

theorem doubled_cons_of_ne {q c : Char} (hc : c ≠ q) (s : Text) :
    doubled q (c :: s) = c :: doubled q s := by
  simp [doubled, substitute, hc]

/-- Doubling adds no character that is not there. -/
theorem mem_of_mem_doubled {q c : Char} {s : Text} (h : c ∈ doubled q s) : c ∈ s := by
  obtain ⟨d, hd, hc⟩ := List.mem_flatMap.mp h
  by_cases heq : d = q
  · rw [if_pos heq] at hc
    have hcq : c = q := by simpa using hc
    rwa [hcq, ← heq]
  · rw [if_neg heq] at hc
    rwa [List.mem_singleton.mp hc]

/-! ## Single characters -/

/-- Characters are replaced one by one. -/
theorem substitute_append (a : Char) (b front rest : Text) :
    substitute a b (front ++ rest) = substitute a b front ++ substitute a b rest :=
  List.flatMap_append

/-- Where the character does not occur nothing is replaced. -/
theorem substitute_of_not_mem {a : Char} {s : Text} (h : a ∉ s) (b : Text) :
    substitute a b s = s := by
  induction s with
  | nil => rfl
  | cons c s ih =>
      have hc : c ≠ a := fun heq => h (heq ▸ List.mem_cons_self)
      have hs : substitute a b s = s := ih fun hmem => h (List.mem_cons_of_mem _ hmem)
      show (if c = a then b else [c]) ++ substitute a b s = _
      rw [if_neg hc, hs, List.singleton_append]

/-! ## Pairs -/

/-- A pair is replaced where it begins; another character stays. -/
theorem substitutePair_cons_of_ne {a b r c : Char} (hc : c ≠ a) (s : Text) :
    substitutePair a b r (c :: s) = c :: substitutePair a b r s := by
  cases s with
  | nil => rfl
  | cons d s => rw [substitutePair, if_neg (fun h => hc h.1)]

/-- A pair is replaced, and the text behind it is looked at next. -/
theorem substitutePair_cons_of_pair {a b r : Char} (s : Text) :
    substitutePair a b r (a :: b :: s) = r :: substitutePair a b r s := by
  rw [substitutePair, if_pos ⟨rfl, rfl⟩]

/-- The first of a pair alone stays. -/
theorem substitutePair_cons_cons_of_ne {a b r c d : Char} (hd : d ≠ b) (s : Text) :
    substitutePair a b r (c :: d :: s) = c :: substitutePair a b r (d :: s) := by
  rw [substitutePair, if_neg (fun h => hd h.2)]

/-- A text without the first character of the pair stays as it is. -/
theorem substitutePair_append_of_not_mem {a b r : Char} {front : Text} (h : a ∉ front)
    (rest : Text) :
    substitutePair a b r (front ++ rest) = front ++ substitutePair a b r rest := by
  induction front with
  | nil => rfl
  | cons c front ih =>
      have hc : c ≠ a := fun heq => h (heq ▸ List.mem_cons_self)
      rw [List.cons_append, substitutePair_cons_of_ne hc,
        ih (fun hmem => h (List.mem_cons_of_mem _ hmem)), List.cons_append]

/-- So does a text without the second one. -/
theorem substitutePair_eq_self {a b r : Char} {s : Text} (h : b ∉ s) :
    substitutePair a b r s = s := by
  induction s with
  | nil => rfl
  | cons c s ih =>
      have hs : substitutePair a b r s = s := ih fun hmem => h (List.mem_cons_of_mem _ hmem)
      cases s with
      | nil => rfl
      | cons d s =>
          have hd : d ≠ b := fun heq => h (heq ▸ List.mem_cons_of_mem _ List.mem_cons_self)
          rw [substitutePair_cons_cons_of_ne hd, hs]

/-- A character that is written twice is read once. -/
theorem substitutePair_doubled (q : Char) (s rest : Text) :
    substitutePair q q q (doubled q s ++ rest) = s ++ substitutePair q q q rest := by
  induction s with
  | nil => rfl
  | cons c s ih =>
      by_cases hc : c = q
      · rw [hc, doubled_cons_self, List.cons_append, List.cons_append,
          substitutePair_cons_of_pair, ih, List.cons_append]
      · rw [doubled_cons_of_ne hc, List.cons_append, substitutePair_cons_of_ne hc, ih,
          List.cons_append]

/-! ## Escapes -/

/-- A character with its escape: a line feed and a backslash are written behind a backslash. -/
def escapeChar (c : Char) : Text :=
  if c = '\n' then ['\\', 'n'] else if c = '\\' then ['\\', '\\'] else [c]

/-- A text with line feeds and backslashes escaped. -/
def escapeText (s : Text) : Text :=
  s.flatMap escapeChar

/-- Only a backslash begins an escape. -/
theorem unescape_cons_of_ne {c : Char} (hc : c ≠ '\\') (s : Text) :
    unescape (c :: s) = c :: unescape s := by
  cases s with
  | nil => rfl
  | cons d s => rw [unescape, if_neg (fun h => hc h.1)]

/-- An escaped text is read as the text, whatever follows. -/
theorem unescape_escapeText (s rest : Text) :
    unescape (escapeText s ++ rest) = s ++ unescape rest := by
  induction s with
  | nil => rfl
  | cons c s ih =>
      have hcons : escapeText (c :: s) = escapeChar c ++ escapeText s := List.flatMap_cons
      rw [hcons, List.append_assoc, List.cons_append, ← ih]
      by_cases hline : c = '\n'
      · subst hline
        rfl
      by_cases hslash : c = '\\'
      · subst hslash
        rfl
      · rw [escapeChar, if_neg hline, if_neg hslash, List.singleton_append,
          unescape_cons_of_ne hslash]

end SignalLab.Text
