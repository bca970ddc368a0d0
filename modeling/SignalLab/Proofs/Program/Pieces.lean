import Mathlib.Data.List.Basic
import SignalLab.Program.Statement
import SignalLab.Proofs.Text.Brackets

/-!
# Pieces — a line is its pieces, semicolons between them, and a comment

A line is scanned from left to right, and at each of its characters the scan is at a `Place`: outside
literals at some depth of brackets, inside a literal, behind a quote that ends a literal unless the
same quote follows, or in the comment.  What is a literal is up to the scan: an apostrophe that is a
transpose begins none, and neither does one with nothing before it in its piece.

A semicolon outside literals and brackets ends a piece, and a percent sign outside literals begins
the comment (`Place.ends`).  `Cut` says of pieces that they end at these semicolons and nowhere else;
those of a line do (`cut_piecesAt`), so nothing of the line is lost, doubled or moved
(`split_pieces`).
-/

namespace SignalLab.Statement

open Text

/-! ## Places -/

/-- A quote that literals begin and end with. -/
structure Quote where
  char : Char
  isQuote : Text.isQuote char = true
  deriving DecidableEq

/-- A character that is no quote ends no literal. -/
theorem Quote.char_ne (q : Quote) {c : Char} (hc : Text.isQuote c = false) : c ≠ q.char := by
  rintro rfl
  rw [q.isQuote] at hc
  cases hc

/-- Where the scan of a line is. -/
inductive Place where
  /-- Outside literals, at a depth of brackets, behind a character of the piece if there is one. -/
  | outside (depth : Nat) (before : Option Char)
  /-- Inside a literal that begins with a quote. -/
  | inside (quote : Quote) (depth : Nat)
  /-- Behind the quote that ends a literal, unless the same quote follows. -/
  | closed (quote : Quote) (depth : Nat)
  | comment
  deriving DecidableEq

namespace Place

/-- The place where a line begins, and each of its pieces. -/
def start : Place := outside 0 none

/-- The place behind a character that is read outside literals. -/
def nextOutside (depth : Nat) (before : Option Char) (c : Char) : Place :=
  if h : isQuote c then
    if c = '\'' && isTranspose before then outside depth (some c) else inside ⟨c, h⟩ depth
  else if c = '%' then comment
  else if isOpening c then outside (depth + 1) (some c)
  else if isClosing c then outside (depth - 1) (some c)
  else if c = ';' ∧ depth = 0 then start
  else outside depth (some c)

/-- The place behind a character. -/
def next : Place → Char → Place
  | outside depth before, c => nextOutside depth before c
  | inside q depth, c => if c = q.char then closed q depth else inside q depth
  | closed q depth, c =>
    if c = q.char then inside q depth else nextOutside depth (some q.char) c
  | comment, _ => comment

/-- The place behind a text. -/
def after (p : Place) (s : Text) : Place :=
  s.foldl next p

@[simp] theorem after_nil (p : Place) : p.after [] = p := rfl

@[simp] theorem after_cons (p : Place) (c : Char) (s : Text) :
    p.after (c :: s) = (p.next c).after s := rfl

/-- A text is read from the place that its front ends in. -/
theorem after_append (p : Place) (s t : Text) : p.after (s ++ t) = (p.after s).after t :=
  List.foldl_append

/-- Whether the scan is inside a literal. -/
def isInLiteral : Place → Bool
  | inside _ _ => true
  | _ => false

/-- Whether the scan is outside literals, and not in the comment. -/
def isCode : Place → Bool
  | outside _ _ => true
  | closed _ _ => true
  | _ => false

/-- The depth of brackets. -/
def depth : Place → Nat
  | outside depth _ => depth
  | inside _ depth => depth
  | closed _ depth => depth
  | comment => 0

/-- Whether the scan is outside literals and at depth zero, and not in the comment. -/
def isTopLevel (p : Place) : Bool :=
  p.isCode && p.depth == 0

/-- Whether a character ends the piece at a place: a semicolon at the top level, or the percent sign
of a comment. -/
def ends (p : Place) (c : Char) : Bool :=
  c == ';' && p.isTopLevel || c == '%' && p.isCode

/-- Outside of comments a place is in a literal or in code. -/
theorem isInLiteral_eq_not_isCode {p : Place} (hp : p ≠ comment) : p.isInLiteral = !p.isCode := by
  cases p with
  | outside depth before => rfl
  | inside q depth => rfl
  | closed q depth => rfl
  | comment => exact absurd rfl hp

/-- Code is no comment. -/
theorem ne_comment_of_isCode {p : Place} (h : p.isCode = true) : p ≠ comment := by
  rintro rfl
  cases h

/-! ### Characters that end a piece -/

variable {p : Place} {c : Char}

/-- A statement ends at a semicolon of the top level and at a comment. -/
theorem ends_iff : p.ends c = true ↔
    c = ';' ∧ p.isTopLevel = true ∨ c = '%' ∧ p.isCode = true := by
  simp [ends]

theorem nextOutside_semicolon (before : Option Char) : nextOutside 0 before ';' = start := rfl

/-- Behind the semicolon that ends a piece the scan is where it began. -/
theorem next_semicolon (h : p.isTopLevel = true) : p.next ';' = start := by
  obtain ⟨hcode, hdepth⟩ := Bool.and_eq_true_iff.mp h
  cases p with
  | outside depth before =>
      obtain rfl : depth = 0 := beq_iff_eq.mp hdepth
      exact nextOutside_semicolon before
  | closed q depth =>
      obtain rfl : depth = 0 := beq_iff_eq.mp hdepth
      exact (if_neg (q.char_ne (by decide))).trans (nextOutside_semicolon _)
  | inside q depth => cases hcode
  | comment => cases hcode

/-- Only a percent sign begins a comment. -/
theorem nextOutside_ne_comment {depth : Nat} {before : Option Char} (hc : c ≠ '%') :
    nextOutside depth before c ≠ comment := by
  unfold nextOutside
  split
  · split <;> simp
  · split
    · simp
    · split
      · simp
      · split <;> simp [start]

/-- Only the percent sign of a comment leads into the comment. -/
theorem next_ne_comment (hp : p ≠ comment) (h : p.ends c = false) : p.next c ≠ comment := by
  have hpercent : p.isCode = true → c ≠ '%' := by
    rintro hcode rfl
    rw [ends_iff.mpr (.inr ⟨rfl, hcode⟩)] at h
    cases h
  cases p with
  | outside depth before => exact nextOutside_ne_comment (hpercent rfl)
  | inside q depth =>
      rw [next]
      split <;> simp
  | closed q depth =>
      rw [next]
      split
      · simp
      · exact nextOutside_ne_comment (hpercent rfl)
  | comment => exact absurd rfl hp

end Place

open Place

/-! ## Pieces from a place on -/

/-- Inside a literal it makes no difference what stood in front of it. -/
theorem piecesFrom_congr (q : Char) (depth : Nat) (before before' : Option Char) (s : Text) :
    piecesFrom (some q) depth before s = piecesFrom (some q) depth before' s := by
  cases s with
  | nil => rfl
  | cons c s => rw [piecesFrom.eq_def, piecesFrom.eq_def (some q) depth before']

/-- The pieces of what is left of a line at a place. -/
def piecesAt (p : Place) (s : Text) : List Text :=
  match p with
  | .outside depth before => piecesFrom none depth before s
  | .inside q depth => piecesFrom (some q.char) depth none s
  | .closed q depth =>
    if s.head? = some q.char then addToFirst q.char (piecesFrom (some q.char) depth none s.tail)
    else piecesFrom none depth (some q.char) s
  | .comment => [[]]

/-- A line is cut from its start. -/
theorem pieces_eq_piecesAt (line : Text) : pieces line = piecesAt start line :=
  rfl

variable {p : Place} {c : Char}

theorem piecesAt_nil (p : Place) : piecesAt p [] = [[]] := by
  cases p with
  | outside depth before => rfl
  | inside q depth => rfl
  | closed q depth =>
      have hhead : ([] : Text).head? ≠ some q.char := nofun
      rw [piecesAt, if_neg hhead]
      rfl
  | comment => rfl

/-- A character that ends nothing belongs to the first piece. -/
theorem piecesFrom_cons_of_kept {depth : Nat} {before : Option Char}
    (h : (outside depth before).ends c = false) (s : Text) :
    piecesFrom none depth before (c :: s) =
      addToFirst c (piecesAt (nextOutside depth before c) s) := by
  have hpercent : c ≠ '%' := by
    rintro rfl
    cases h
  have hsemicolon : ¬ (c = ';' ∧ depth = 0) := by
    rintro ⟨rfl, rfl⟩
    cases h
  rw [piecesFrom.eq_def, nextOutside]
  simp only
  -- the two sides ask the same questions in the same order
  by_cases hquote : isQuote c = true
  · rw [if_pos hquote, dif_pos hquote]
    by_cases htranspose : (c = '\'' && isTranspose before) = true
    · rw [if_pos htranspose, if_pos htranspose]
      rfl
    · rw [if_neg htranspose, if_neg htranspose]
      exact congrArg _ (piecesFrom_congr c depth _ _ s)
  · rw [if_neg hquote, dif_neg hquote, if_neg hpercent, if_neg hpercent]
    by_cases hopening : isOpening c = true
    · rw [if_pos hopening, if_pos hopening]
      rfl
    rw [if_neg hopening, if_neg hopening]
    by_cases hclosing : isClosing c = true
    · rw [if_pos hclosing, if_pos hclosing]
      rfl
    rw [if_neg hclosing, if_neg hclosing, if_neg hsemicolon, if_neg hsemicolon]
    rfl

/-- A character that does not end the piece belongs to it. -/
theorem piecesAt_cons_of_kept (hp : p ≠ comment) (h : p.ends c = false) (s : Text) :
    piecesAt p (c :: s) = addToFirst c (piecesAt (p.next c) s) := by
  cases p with
  | outside depth before => exact piecesFrom_cons_of_kept h s
  | inside q depth =>
      show piecesFrom (some q.char) depth none (c :: s) = _
      by_cases hc : c = q.char
      · subst hc
        rw [piecesFrom.eq_def, next, if_pos rfl]
        cases s with
        | nil => simp [piecesAt, addToFirst, piecesFrom]
        | cons d s =>
            by_cases hd : d = q.char
            · subst hd
              simp [piecesAt, piecesFrom_congr q.char depth (some q.char) none]
            · simp [piecesAt, hd]
      · rw [piecesFrom.eq_def, next, if_neg hc]
        simp only [if_neg hc]
        exact congrArg _ (piecesFrom_congr q.char depth _ _ s)
  | closed q depth =>
      rw [piecesAt, next, List.head?_cons]
      by_cases hc : c = q.char
      · rw [if_pos hc, if_pos (congrArg some hc), hc]
        rfl
      · rw [if_neg hc, if_neg (fun heq => hc (Option.some.inj heq))]
        exact piecesFrom_cons_of_kept h s
  | comment => exact absurd rfl hp

/-- A semicolon of the top level ends a piece and begins another one. -/
theorem piecesAt_semicolon (h : p.isTopLevel = true) (s : Text) :
    piecesAt p (';' :: s) = [] :: piecesAt start s := by
  obtain ⟨hcode, hdepth⟩ := Bool.and_eq_true_iff.mp h
  have houtside : ∀ before, piecesFrom none 0 before (';' :: s) = [] :: piecesAt start s := by
    intro before
    rw [piecesFrom.eq_def]
    rfl
  cases p with
  | outside depth before =>
      obtain rfl : depth = 0 := beq_iff_eq.mp hdepth
      exact houtside before
  | closed q depth =>
      obtain rfl : depth = 0 := beq_iff_eq.mp hdepth
      have hq : (';' :: s).head? ≠ some q.char :=
        fun heq => q.char_ne (by decide) (Option.some.inj heq)
      exact (if_neg hq).trans (houtside _)
  | inside q depth => cases hcode
  | comment => cases hcode

/-- A percent sign in code ends the line. -/
theorem piecesAt_percent (h : p.isCode = true) (s : Text) : piecesAt p ('%' :: s) = [[]] := by
  have houtside : ∀ depth before, piecesFrom none depth before ('%' :: s) = [[]] := by
    intro depth before
    rw [piecesFrom.eq_def]
    rfl
  cases p with
  | outside depth before => exact houtside depth before
  | closed q depth =>
      have hq : ('%' :: s).head? ≠ some q.char :=
        fun heq => q.char_ne (by decide) (Option.some.inj heq)
      exact (if_neg hq).trans (houtside depth _)
  | inside q depth => cases h
  | comment => cases h

/-! ## Cuts -/

/-- Whether no character of a text that begins at a place ends its piece. -/
def Whole (p : Place) (s : Text) : Prop :=
  ∀ u c v, s = u ++ c :: v → (p.after u).ends c = false

theorem whole_nil (p : Place) : Whole p [] := by
  intro u c v h
  simp at h

/-- A piece is whole if no character of it ends a statement. -/
theorem whole_cons_iff {s : Text} : Whole p (c :: s) ↔ p.ends c = false ∧ Whole (p.next c) s := by
  constructor
  · intro h
    refine ⟨h [] c s rfl, fun u d v hs => ?_⟩
    exact h (c :: u) d v (by rw [hs, List.cons_append])
  · rintro ⟨hc, hs⟩ u d v h
    rcases List.cons_eq_append_iff.mp h with ⟨rfl, heq⟩ | ⟨u, rfl, rfl⟩
    · obtain ⟨rfl, -⟩ := List.cons.inj heq
      exact hc
    · exact hs u d v rfl

/-- The parts of a whole piece are whole, each from where it begins. -/
theorem whole_append_iff {s t : Text} : Whole p (s ++ t) ↔ Whole p s ∧ Whole (p.after s) t := by
  induction s generalizing p with
  | nil => simp [whole_nil]
  | cons c s ih => rw [List.cons_append, whole_cons_iff, whole_cons_iff, ih, after_cons, and_assoc]

/-- A piece is not left for the comment. -/
theorem Whole.after_ne_comment {s : Text} (h : Whole p s) (hp : p ≠ comment) :
    p.after s ≠ comment := by
  induction s generalizing p with
  | nil => exact hp
  | cons c s ih =>
      obtain ⟨hc, hs⟩ := whole_cons_iff.mp h
      exact ih hs (next_ne_comment hp hc)

/-- Pieces of a text that begins at a place, with semicolons between them: each but the last one ends
at a semicolon that ends it, and nothing within a piece ends it. -/
inductive Cut : Place → List Text → Prop
  | last {p : Place} {piece : Text} (whole : Whole p piece) : Cut p [piece]
  | cons {p : Place} {piece : Text} {pieces : List Text} (whole : Whole p piece)
      (ends : (p.after piece).isTopLevel = true) (rest : Cut start pieces) :
      Cut p (piece :: pieces)

/-- A line has at least one piece. -/
theorem Cut.ne_nil {pieces : List Text} (h : Cut p pieces) : pieces ≠ [] := by
  cases h <;> simp

/-- A character that ends nothing can stand in front of the first piece. -/
theorem Cut.addToFirst {pieces : List Text} (hc : p.ends c = false) (h : Cut (p.next c) pieces) :
    Cut p (addToFirst c pieces) := by
  cases h with
  | last whole => exact .last (whole_cons_iff.mpr ⟨hc, whole⟩)
  | cons whole ends rest => exact .cons (whole_cons_iff.mpr ⟨hc, whole⟩) ends rest

/-- A text is its pieces with semicolons between them, and a comment. -/
theorem cut_piecesAt (hp : p ≠ comment) (s : Text) :
    Cut p (piecesAt p s) ∧ ∃ rest, s = join [';'] (piecesAt p s) ++ rest ∧
      (rest = [] ∨
        rest.head? = some '%' ∧ (p.after (join [';'] (piecesAt p s))).isCode = true) := by
  induction s generalizing p with
  | nil =>
      rw [piecesAt_nil]
      exact ⟨.last (whole_nil p), [], rfl, .inl rfl⟩
  | cons c s ih =>
      by_cases hends : p.ends c = true
      · rcases ends_iff.mp hends with ⟨rfl, htop⟩ | ⟨rfl, hcode⟩
        · obtain ⟨hcut, rest, hs, hrest⟩ := ih (p := start) (by simp [start])
          rw [piecesAt_semicolon htop, join_cons ';' [] hcut.ne_nil, List.nil_append, after_cons, next_semicolon htop]
          exact ⟨.cons (whole_nil p) htop hcut, rest, congrArg _ hs, hrest⟩
        · rw [piecesAt_percent hcode]
          exact ⟨.last (whole_nil p), '%' :: s, rfl, .inr ⟨rfl, hcode⟩⟩
      · have hkept := Bool.eq_false_iff.mpr hends
        obtain ⟨hcut, rest, hs, hrest⟩ := ih (next_ne_comment hp hkept)
        rw [piecesAt_cons_of_kept hp hkept, join_addToFirst, after_cons]
        exact ⟨hcut.addToFirst hkept, rest, congrArg _ hs, hrest⟩

/-- What is in front of a piece: the pieces before it, with their semicolons. -/
def lead (pieces : List Text) : Text :=
  pieces.flatMap fun piece => piece ++ [';']

/-- The scan of a line is at the place of each piece as if the piece were the first one. -/
theorem Cut.at_piece {pieces before behind : List Text} {piece : Text} (h : Cut start pieces)
    (heq : pieces = before ++ piece :: behind) :
    start.after (lead before) = start ∧ Whole start piece ∧
      (behind ≠ [] → (start.after piece).isTopLevel = true) := by
  induction before generalizing pieces with
  | nil =>
      subst heq
      refine ⟨rfl, ?_⟩
      cases h with
      | last whole => exact ⟨whole, fun h => absurd rfl h⟩
      | cons whole ends rest => exact ⟨whole, fun _ => ends⟩
  | cons first before ih =>
      cases h with
      | last whole => simp at heq
      | cons whole ends rest =>
          obtain ⟨rfl, htail⟩ := List.cons.inj heq
          obtain ⟨hplace, hpiece⟩ := ih rest htail
          refine ⟨?_, hpiece⟩
          rw [lead, List.flatMap_cons, ← lead, List.append_assoc, after_append, List.singleton_append,
            after_cons, next_semicolon ends]
          exact hplace

/-- A percent sign of a text in front of its comment is in a literal. -/
theorem Cut.isInLiteral_of_percent {pieces : List Text} (hp : p ≠ comment) (h : Cut p pieces)
    {u v : Text} (heq : join [';'] pieces = u ++ '%' :: v) : (p.after u).isInLiteral = true := by
  have hpiece : ∀ {p : Place} {piece u v : Text}, p ≠ comment → Whole p piece →
      piece = u ++ '%' :: v → (p.after u).isInLiteral = true := by
    intro p piece u v hp hwhole heq
    subst heq
    have hends := (whole_cons_iff.mp (whole_append_iff.mp hwhole).2).1
    have hplace := (whole_append_iff.mp hwhole).1.after_ne_comment hp
    rw [isInLiteral_eq_not_isCode hplace, Bool.not_eq_true', Bool.eq_false_iff]
    intro hcode
    rw [ends_iff.mpr (.inr ⟨rfl, hcode⟩)] at hends
    cases hends
  -- the sign is in the first piece or behind the semicolon that ends it
  induction h generalizing u with
  | last whole =>
      rw [join, List.intercalate_singleton] at heq
      exact hpiece hp whole heq
  | @cons p piece pieces whole ends rest ih =>
      obtain ⟨next, others, rfl⟩ := List.exists_cons_of_ne_nil rest.ne_nil
      rw [join, List.intercalate_cons_cons, List.append_assoc, ← join] at heq
      rcases List.append_eq_append_iff.mp heq with ⟨w, rfl, hw⟩ | ⟨w, hw, hrest⟩
      · cases w with
        | nil => exact absurd (List.cons.inj hw).1 (by decide)
        | cons d w =>
            obtain ⟨rfl, htail⟩ := List.cons.inj hw
            rw [after_append, after_cons, next_semicolon ends]
            exact ih (by simp [start]) htail
      · cases w with
        | nil => exact absurd (List.cons.inj hrest).1 (by decide)
        | cons d w =>
            obtain ⟨rfl, -⟩ := List.cons.inj hrest
            exact hpiece hp whole hw

/-! ## Lines -/

/-- A comment behind a text changes nothing of its pieces unless it begins inside a literal. -/
theorem piecesAt_append_percent {s : Text} (h : (p.after s).isInLiteral = false) (t : Text) :
    piecesAt p (s ++ '%' :: t) = piecesAt p s := by
  induction s generalizing p with
  | nil =>
      rw [List.nil_append, piecesAt_nil]
      by_cases hp : p = comment
      · subst hp
        rfl
      · rw [after_nil, isInLiteral_eq_not_isCode hp, Bool.not_eq_false'] at h
        exact piecesAt_percent h t
  | cons c s ih =>
      by_cases hp : p = comment
      · subst hp
        rfl
      rw [List.cons_append]
      by_cases hends : p.ends c = true
      · rcases ends_iff.mp hends with ⟨rfl, htop⟩ | ⟨rfl, hcode⟩
        · rw [after_cons, next_semicolon htop] at h
          rw [piecesAt_semicolon htop, piecesAt_semicolon htop, ih h]
        · rw [piecesAt_percent hcode, piecesAt_percent hcode]
      · have hkept := Bool.eq_false_iff.mpr hends
        rw [piecesAt_cons_of_kept hp hkept, piecesAt_cons_of_kept hp hkept, ih h]

/-- The statements of a line are its pieces, trimmed, without the blank ones. -/
theorem split_eq (line : Text) :
    split line = ((pieces line).filter fun piece => !isBlankText piece).map trim := by
  rw [split]
  induction pieces line with
  | nil => rfl
  | cons piece pieces ih =>
      rw [List.filterMap_cons, List.filter_cons]
      cases hblank : isBlankText piece <;> simp [ih]

/-- Nothing of a line is lost.  Up to its comment, which begins at the first percent sign outside
literals, it is its pieces with semicolons between them; these semicolons are at the top level, and no
other one is.  Its statements are the pieces that are not blank, trimmed, in their order.  A comment
may therefore be added to a line that does not end inside a literal. -/
theorem split_pieces (line : Text) :
    (∃ body rest pieces, line = body ++ rest ∧
      (rest = [] ∨ rest.head? = some '%' ∧ (start.after body).isInLiteral = false) ∧
      (∀ u v, body = u ++ '%' :: v → (start.after u).isInLiteral = true) ∧
      pieces ≠ [] ∧ body = join [';'] pieces ∧
      (∀ before piece behind, pieces = before ++ piece :: behind →
        (behind ≠ [] → (start.after (lead before ++ piece)).isTopLevel = true) ∧
        ∀ u v, piece = u ++ ';' :: v → (start.after (lead before ++ u)).isTopLevel = false) ∧
      split line = (pieces.filter fun piece => !isBlankText piece).map trim) ∧
    ∀ c, (start.after line).isInLiteral = false → split (line ++ '%' :: c) = split line := by
  have hstart : start ≠ comment := by simp [start]
  constructor
  · obtain ⟨hcut, rest, hline, hrest⟩ := cut_piecesAt hstart line
    rw [← pieces_eq_piecesAt] at hcut hline hrest
    refine ⟨_, rest, pieces line, hline, ?_, fun u v => hcut.isInLiteral_of_percent hstart,
      hcut.ne_nil, rfl, ?_, split_eq line⟩
    · refine hrest.imp_right fun ⟨hhead, hcode⟩ => ⟨hhead, ?_⟩
      rw [isInLiteral_eq_not_isCode (ne_comment_of_isCode hcode), hcode]
      rfl
    · intro before piece behind heq
      obtain ⟨hplace, hwhole, hends⟩ := hcut.at_piece heq
      refine ⟨fun hbehind => ?_, fun u v huv => ?_⟩
      · rw [after_append, hplace]
        exact hends hbehind
      · rw [after_append, hplace, Bool.eq_false_iff]
        intro htop
        have hkept := hwhole u ';' v huv
        rw [ends_iff.mpr (.inl ⟨rfl, htop⟩)] at hkept
        cases hkept
  · intro c h
    rw [split_eq, split_eq, pieces_eq_piecesAt, pieces_eq_piecesAt, piecesAt_append_percent h]

/-- Semicolons and percent signs in a literal, doubled quotes, brackets that do not match and a
transpose, with a comment behind them that has quotes of its own. -/
theorem split_pieces_of_marks :
    let line : Text := "t = 'a;%'';'; m] = (1; 2); ; x = t'"
    let comment : Text := " b; 'c"
    (start.after line).isInLiteral = false ∧
    split (line ++ '%' :: comment) = split line ∧
    split line = ["t = 'a;%'';'".toList, "m] = (1; 2)".toList, "x = t'".toList] := by
  intro line comment
  have hplace : (start.after line).isInLiteral = false := by decide +kernel
  exact ⟨hplace, (split_pieces line).2 comment hplace, by decide +kernel⟩

end SignalLab.Statement
