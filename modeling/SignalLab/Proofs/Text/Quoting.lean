import SignalLab.Program.Statement
import SignalLab.Proofs.Text.Substitution
import SignalLab.Proofs.Text.Trimming

/-!
# Quoting — texts inside quotes

A text is quoted by writing the quotes in it twice.  Three readers meet a quoted text.  The splitter
of statements takes a doubled quote for a character of the text, the splitter at separators takes it
for the end of one quoted stretch and the beginning of the next, and the reader of literals takes it
for one quote.  The first two leave the quoted text in one piece whatever stands in it, and the third
gives the text back; it reads quoted texts and nothing else (`reads_exactly_literals`).
-/

namespace SignalLab

namespace Text

/-- A text in quotes. -/
def quoteText (q : Char) (s : Text) : Text :=
  q :: (doubled q s ++ [q])

theorem quoteText_append (q : Char) (s rest : Text) :
    quoteText q s ++ rest = q :: (doubled q s ++ q :: rest) := by
  rw [quoteText, List.cons_append, List.append_assoc, List.singleton_append]

/-! ## Literals -/

theorem literalBody?_cons_of_ne {q c : Char} (hc : c ≠ q) (s : Text) :
    literalBody? q (c :: s) =
      (literalBody? q s).map fun (body, rest) => (c :: body, rest) := by
  cases s with
  | nil => rw [literalBody?, literalBody?, if_neg hc, Option.map_none]
  | cons d s => rw [literalBody?, if_neg hc]

/-- A quoted text is read up to its closing quote. -/
theorem literalBody?_doubled {q : Char} {rest : Text} (hrest : rest.head? ≠ some q) (s : Text) :
    literalBody? q (doubled q s ++ q :: rest) = some (s, rest) := by
  induction s with
  | nil =>
      rw [doubled_nil, List.nil_append]
      cases rest with
      | nil => rw [literalBody?, if_pos rfl]
      | cons d rest =>
          have hd : d ≠ q := fun heq => hrest (heq ▸ rfl)
          rw [literalBody?, if_pos rfl, if_neg hd]
  | cons c s ih =>
      by_cases hc : c = q
      · rw [hc, doubled_cons_self, List.cons_append, List.cons_append, literalBody?, if_pos rfl,
          if_pos rfl, ih]
        rfl
      · rw [doubled_cons_of_ne hc, List.cons_append, literalBody?_cons_of_ne hc, ih]
        rfl

theorem isBlank_of_isQuote {q : Char} (hq : isQuote q = true) : isBlank q = false := by
  rw [isQuote, Bool.or_eq_true, beq_iff_eq, beq_iff_eq] at hq
  rcases hq with rfl | rfl <;> decide

theorem trimLeft_quoteText {q : Char} (hq : isQuote q = true) (s rest : Text) :
    trimLeft (quoteText q s ++ rest) = quoteText q s ++ rest := by
  rw [quoteText_append]
  exact List.dropWhile_cons_of_neg (by rw [isBlank_of_isQuote hq]; decide)

/-- What is read up to a closing quote stood there with its quotes doubled. -/
theorem of_literalBody? {q : Char} {s v rest : Text} (h : literalBody? q s = some (v, rest)) :
    s = doubled q v ++ q :: rest ∧ rest.head? ≠ some q := by
  fun_induction literalBody? q s generalizing v rest with
  | case1 => cases h
  | case2 =>
      -- the closing quote alone
      cases h
      exact ⟨rfl, by simp⟩
  | case3 => cases h
  | case4 s ih =>
      -- a doubled quote
      obtain ⟨⟨body, rest'⟩, hbody, heq⟩ := Option.map_eq_some_iff.mp h
      cases heq
      obtain ⟨rfl, hrest⟩ := ih hbody
      exact ⟨by rw [doubled_cons_self, List.cons_append, List.cons_append], hrest⟩
  | case5 d s hd =>
      -- the closing quote before something else
      cases h
      exact ⟨rfl, fun hhead => hd (Option.some.inj hhead)⟩
  | case6 c d s hc ih =>
      obtain ⟨⟨body, rest'⟩, hbody, heq⟩ := Option.map_eq_some_iff.mp h
      cases heq
      obtain ⟨hs, hrest⟩ := ih hbody
      exact ⟨by rw [doubled_cons_of_ne hc, List.cons_append, ← hs], hrest⟩

/-- A reading of a text as a literal: behind the blanks at its front it is contents in quotes, with the
quotes in them doubled, and what follows does not begin with the quote. -/
structure Literal (s : Text) where
  quote : Char
  contents : Text
  rest : Text
  isQuote : Text.isQuote quote = true
  text : trimLeft s = quoteText quote contents ++ rest
  ends : rest.head? ≠ some quote

theorem Literal.takeLiteral?_eq {s : Text} (l : Literal s) :
    takeLiteral? s = some (l.contents, l.rest) := by
  rw [takeLiteral?, l.text, quoteText_append]
  show (if Text.isQuote l.quote then literalBody? l.quote _ else none) = _
  rw [if_pos l.isQuote, literalBody?_doubled l.ends]

/-- The literal at the front of a text is the one that is quoted there. -/
theorem takeLiteral?_quoteText {q : Char} (hq : isQuote q = true) {rest : Text}
    (hrest : rest.head? ≠ some q) (s : Text) :
    takeLiteral? (quoteText q s ++ rest) = some (s, rest) :=
  Literal.takeLiteral?_eq ⟨q, s, rest, hq, trimLeft_quoteText hq s rest, hrest⟩

theorem exists_literal {s v rest : Text} (h : takeLiteral? s = some (v, rest)) :
    ∃ l : Literal s, l.contents = v ∧ l.rest = rest := by
  rw [takeLiteral?] at h
  split at h
  · cases h
  · rename_i q behind hleft
    split at h
    · rename_i hq
      obtain ⟨rfl, hrest⟩ := of_literalBody? h
      exact ⟨⟨q, v, rest, hq, by rw [hleft, quoteText_append], hrest⟩, rfl, rfl⟩
    · cases h

/-- A text is a literal in one way at most: the quote is the first character behind the blanks, and
what is read decides the rest. -/
theorem Literal.eq {s : Text} (l l' : Literal s) : l = l' := by
  have hquote : l.quote = l'.quote := (List.cons.inj (l.text.symm.trans l'.text)).1
  have hread : (l.contents, l.rest) = (l'.contents, l'.rest) :=
    Option.some.inj (l.takeLiteral?_eq.symm.trans l'.takeLiteral?_eq)
  obtain ⟨hcontents, hrest⟩ := Prod.mk.inj hread
  obtain ⟨quote, contents, rest, _, _, _⟩ := l
  obtain ⟨quote', contents', rest', _, _, _⟩ := l'
  subst hquote hcontents hrest
  rfl

/-- Exactly the literals are read: what is read are the contents and the rest of a reading, a text has
one reading at most, and nothing is read only where there is none. -/
theorem reads_exactly_literals (s : Text) :
    (∀ v rest, takeLiteral? s = some (v, rest) ↔
      ∃ l : Literal s, l.contents = v ∧ l.rest = rest) ∧
    (∀ l l' : Literal s, l = l') ∧
    (takeLiteral? s = none ↔ ¬ Nonempty (Literal s)) := by
  refine ⟨fun v rest => ⟨exists_literal, ?_⟩, Literal.eq, ?_, ?_⟩
  · rintro ⟨l, rfl, rfl⟩
    exact l.takeLiteral?_eq
  · rintro hnone ⟨l⟩
    rw [l.takeLiteral?_eq] at hnone
    cases hnone
  · intro hunread
    cases h : takeLiteral? s with
    | none => rfl
    | some found =>
        obtain ⟨l, -⟩ := exists_literal h
        exact absurd ⟨l⟩ hunread

/-- Doubled quotes at the end of the contents, the other quote in them, and a second literal behind. -/
example : takeLiteral? " 'a\"b''' 'c'" = some ("a\"b'".toList, " 'c'".toList) := by decide

/-- Two quotes are one of the contents, and then nothing closes the literal. -/
example : takeLiteral? "'ab''" = none := by decide

/-- A literal at the front: blanks, and a quoted text that no further quote of its kind follows. -/
theorem takeLiteral?_eq_some_iff {s v rest : Text} :
    takeLiteral? s = some (v, rest) ↔
      ∃ gap q, isBlankText gap = true ∧ isQuote q = true ∧ rest.head? ≠ some q ∧
        s = gap ++ (quoteText q v ++ rest) := by
  constructor
  · intro h
    obtain ⟨l, rfl, rfl⟩ := exists_literal h
    refine ⟨s.takeWhile isBlank, l.quote, List.all_takeWhile, l.isQuote, l.ends, ?_⟩
    rw [← l.text, trimLeft, List.takeWhile_append_dropWhile]
  · rintro ⟨gap, q, hgap, hq, hrest, rfl⟩
    have htext : trimLeft (gap ++ (quoteText q v ++ rest)) = quoteText q v ++ rest := by
      rw [trimLeft_blanks_append hgap, trimLeft_quoteText hq]
    exact Literal.takeLiteral?_eq ⟨q, v, rest, hq, htext, hrest⟩

/-! ## Separators -/

/-- No separator inside quotes is a cut. -/
theorem partsFrom_doubled {sep q : Char} (hq : isQuote q = true) {depth : Int} {rest : Text}
    (hrest : partsFrom sep none depth rest = [rest]) (s : Text) :
    partsFrom sep (some q) depth (doubled q s ++ q :: rest) = [doubled q s ++ q :: rest] := by
  induction s with
  | nil =>
      show addToFirst q (partsFrom sep (if q = q then none else some q) depth rest) = _
      rw [if_pos rfl, hrest]
      rfl
  | cons c s ih =>
      by_cases hc : c = q
      · rw [hc, doubled_cons_self, List.cons_append, List.cons_append, partsFrom]
        show addToFirst q (partsFrom sep (if q = q then none else some q) depth _) = _
        rw [if_pos rfl, partsFrom]
        show addToFirst q (if isQuote q then _ else _) = _
        rw [if_pos hq, ih]
        rfl
      · rw [doubled_cons_of_ne hc, List.cons_append, partsFrom]
        show addToFirst c (partsFrom sep (if c = q then none else some q) depth _) = _
        rw [if_neg hc, ih]
        rfl

end Text

/-! ## Statements -/

namespace Statement

open Text

theorem piecesFrom_cons_of_ne {q c : Char} (hc : c ≠ q) (depth : Nat) (before : Option Char)
    (s : Text) :
    piecesFrom (some q) depth before (c :: s) =
      addToFirst c (piecesFrom (some q) depth (some c) s) := by
  rw [piecesFrom.eq_def]
  exact if_neg hc

/-- No semicolon and no percent sign inside quotes ends a statement. -/
theorem piecesFrom_doubled {q : Char} {depth : Nat} {before : Option Char} {rest : Text}
    (hhead : rest.head? ≠ some q) (hrest : piecesFrom none depth (some q) rest = [rest])
    (s : Text) :
    piecesFrom (some q) depth before (doubled q s ++ q :: rest) = [doubled q s ++ q :: rest] := by
  induction s generalizing before with
  | nil =>
      rw [doubled_nil, List.nil_append]
      cases rest with
      | nil =>
          rw [piecesFrom]
          exact if_pos rfl
      | cons d rest =>
          have hd : d ≠ q := fun heq => hhead (heq ▸ rfl)
          rw [piecesFrom]
          simp only [if_true, if_neg hd]
          rw [hrest]
          rfl
  | cons c s ih =>
      by_cases hc : c = q
      · rw [hc, doubled_cons_self, List.cons_append, List.cons_append, piecesFrom]
        simp only [if_true]
        rw [ih]
        rfl
      · rw [doubled_cons_of_ne hc, List.cons_append, piecesFrom_cons_of_ne hc, ih]
        rfl

/-- A quoted text is in one piece with what follows it, if a text in quotes may begin there. -/
theorem piecesFrom_quoteText {q : Char} (hq : isQuote q = true) {depth : Nat}
    {before : Option Char} (hbefore : isTranspose before = false) {rest : Text}
    (hhead : rest.head? ≠ some q) (hrest : piecesFrom none depth (some q) rest = [rest])
    (s : Text) :
    piecesFrom none depth before (quoteText q s ++ rest) = [quoteText q s ++ rest] := by
  rw [quoteText_append, piecesFrom.eq_def]
  simp only [hq, if_true, hbefore, Bool.and_false, Bool.false_eq_true, if_false]
  rw [piecesFrom_doubled hhead hrest]
  rfl

end Statement

end SignalLab
