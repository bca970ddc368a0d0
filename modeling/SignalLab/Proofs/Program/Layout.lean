import SignalLab.Proofs.Program.Concatenation
import SignalLab.Proofs.Program.Pieces
import SignalLab.Proofs.Text.Calls
import SignalLab.Proofs.Text.Trimming

/-!
# Layout — statements on lines of their own

Each piece of a line is scanned as if it stood alone, but a statement is a piece without the blanks
around it, and in one case these blanks matter: an apostrophe behind blanks begins a literal, and one
with nothing before it is a transpose.  A piece with an apostrophe behind blanks first is `Displaced`.

  * A statement is one statement again, when it is read on its own, exactly if nothing in it ends a
    piece then (`split_eq_singleton_iff`), and that of a piece that is not displaced always is
    (`whole_trim`).
  * The statements of a program on lines of their own (`ownLines`) are the same statements exactly if
    all of them are one statement again (`texts_ownLines_iff`), and the same statements run to the
    same outcome, but for the line of a failure (`runFrom_sameButLine`).

`split_self_iff` puts these together.
-/

namespace SignalLab

open Text

namespace Statement

open Place

/-! ## Statements read on their own -/

theorem piecesAt_of_whole {p : Place} {s : Text} (hp : p ≠ comment) (h : Whole p s) :
    piecesAt p s = [s] := by
  induction s generalizing p with
  | nil => exact piecesAt_nil p
  | cons c s ih =>
      obtain ⟨hc, hs⟩ := whole_cons_iff.mp h
      rw [piecesAt_cons_of_kept hp hc, ih (next_ne_comment hp hc) hs]
      rfl

/-- Pieces joined, seen from one of them. -/
theorem join_append_cons (before behind : List Text) (piece : Text) :
    join [';'] (before ++ piece :: behind) =
      lead before ++ (piece ++ behind.flatMap (';' :: ·)) := by
  induction before with
  | nil =>
      show join [';'] (piece :: behind) = piece ++ behind.flatMap (';' :: ·)
      induction behind generalizing piece with
      | nil => simp [join]
      | cons next behind ih =>
          rw [join, List.intercalate_cons_cons, ← join, ih, List.flatMap_cons, List.append_assoc]
          rfl
  | cons first before ih =>
      obtain ⟨next, rest, hnext⟩ :=
        List.exists_cons_of_ne_nil (l := before ++ piece :: behind) (by simp)
      rw [List.cons_append, hnext, join, List.intercalate_cons_cons, ← hnext, ← join, ih]
      simp [lead]

/-- A piece of a line in its place. -/
theorem of_pieces_eq {line piece : Text} {before behind : List Text}
    (h : pieces line = before ++ piece :: behind) :
    start.after (lead before) = start ∧ Whole start piece ∧
      ∃ rest, line = lead before ++ (piece ++ rest) := by
  obtain ⟨hcut, rest, hline, -⟩ := cut_piecesAt (p := start) (by simp [start]) line
  obtain ⟨hplace, hwhole, -⟩ := hcut.at_piece h
  rw [← pieces_eq_piecesAt, h, join_append_cons] at hline
  refine ⟨hplace, hwhole, behind.flatMap (';' :: ·) ++ rest, ?_⟩
  rw [hline, List.append_assoc, List.append_assoc]

/-- A piece as long as the text has no others beside it. -/
theorem alone_of_length_le {before behind : List Text} {piece : Text}
    (h : (join [';'] (before ++ piece :: behind)).length ≤ piece.length) :
    before = [] ∧ behind = [] := by
  rw [join_append_cons, List.length_append, List.length_append] at h
  constructor
  · cases before with
    | nil => rfl
    | cons first before =>
        simp only [lead, List.flatMap_cons, List.length_append, List.length_singleton] at h
        omega
  · cases behind with
    | nil => rfl
    | cons next behind =>
        simp only [List.flatMap_cons, List.cons_append, List.length_cons] at h
        omega

/-- A text that is one of its own statements has itself as its only piece. -/
theorem pieces_of_mem_split_self {s : Text} (h : s ∈ split s) : pieces s = [s] := by
  obtain ⟨-, rest, hs, -⟩ := cut_piecesAt (p := start) (by simp [start]) s
  rw [← pieces_eq_piecesAt] at hs
  rw [split_eq] at h
  obtain ⟨piece, hpiece, htrim⟩ := List.mem_map.mp h
  obtain ⟨before, behind, hpieces⟩ := List.append_of_mem (List.mem_of_mem_filter hpiece)
  obtain ⟨front, back, heq, -⟩ := exists_eq_append_trim piece
  rw [htrim] at heq
  -- neither the piece nor its text is the shorter one
  have hpiece := congrArg List.length heq
  have hsum := congrArg List.length hs
  simp only [List.length_append] at hpiece hsum
  rw [hpieces] at hsum
  have hlong : (join [';'] (before ++ piece :: behind)).length ≤ piece.length := by omega
  obtain ⟨rfl, rfl⟩ := alone_of_length_le hlong
  rw [List.nil_append, join, List.intercalate_singleton] at hsum
  obtain rfl : front = [] := List.eq_nil_of_length_eq_zero (by omega)
  obtain rfl : back = [] := List.eq_nil_of_length_eq_zero (by omega)
  rw [hpieces, heq, List.nil_append, List.nil_append, List.append_nil]

/-- A trimmed text that is not blank is one statement exactly if nothing in it ends a piece. -/
theorem split_eq_singleton_iff {s : Text} (htrim : trim s = s) (hblank : isBlankText s = false) :
    split s = [s] ↔ Whole start s := by
  have hstart : start ≠ comment := by simp [start]
  constructor
  · intro h
    have hpieces : piecesAt start s = [] ++ s :: [] :=
      pieces_of_mem_split_self (h ▸ List.mem_cons_self)
    exact ((cut_piecesAt hstart s).1.at_piece hpieces).2.1
  · intro h
    have hpieces : pieces s = [s] := piecesAt_of_whole hstart h
    rw [split, hpieces, List.filterMap_cons, hblank, htrim]
    rfl

/-! ## Blanks before an apostrophe -/

theorem isTranspose_of_isBlank {c : Char} (h : isBlank c = true) : isTranspose (some c) = false :=
  forall_blank (p := fun c => isTranspose (some c) = false) (by decide +kernel) h

theorem nextOutside_of_isBlank {c : Char} (h : isBlank c = true) (before : Option Char) :
    nextOutside 0 before c = outside 0 (some c) := by
  obtain ⟨hquote, hpercent, hopening, hclosing, hsemicolon⟩ :=
    forall_blank (p := fun c => isQuote c = false ∧ c ≠ '%' ∧ isOpening c = false ∧
      isClosing c = false ∧ c ≠ ';') (by decide +kernel) h
  simp [nextOutside, hquote, hpercent, hopening, hclosing, hsemicolon]

/-- Behind blanks the scan is still outside literals and brackets, and no longer at the beginning of
the piece. -/
theorem after_blanks {s : Text} (hs : ∀ c ∈ s, isBlank c = true) (before : Option Char) :
    (outside 0 before).after s = outside 0 (s.getLast?.or before) := by
  induction s generalizing before with
  | nil => rfl
  | cons c s ih =>
      rw [after_cons, next, nextOutside_of_isBlank (hs c List.mem_cons_self),
        ih fun d hd => hs d (List.mem_cons_of_mem _ hd), getLast?_cons_or]

/-- Whether an apostrophe behind blanks is the first character of a piece that is not blank. -/
def Displaced (piece : Text) : Prop :=
  (trimLeft piece).head? = some '\'' ∧ piece.head? ≠ some '\''

/-- What is before a character matters to apostrophes only. -/
theorem nextOutside_congr {c : Char} (hc : c ≠ '\'') (depth : Nat) (before before' : Option Char) :
    nextOutside depth before c = nextOutside depth before' c := by
  simp [nextOutside, hc]

/-- The indentation of a piece, its statement, and the blanks behind it. -/
theorem exists_eq_indented {piece : Text} (hblank : isBlankText piece = false) :
    ∃ c t back, trim piece = c :: t ∧ piece = piece.takeWhile isBlank ++ (c :: t ++ back) := by
  obtain ⟨front, back, heq, hfront⟩ := exists_eq_append_trim piece
  obtain ⟨d, hd, -⟩ := isBlankText_eq_false_iff.mp (isBlankText_trim hblank)
  obtain ⟨c, t, htrim⟩ := List.exists_cons_of_ne_nil (List.ne_nil_of_mem hd)
  have hc : isBlank c = false := isBlank_of_head?_trim (s := piece) (by rw [htrim]; rfl)
  refine ⟨c, t, back, htrim, ?_⟩
  have hindent : piece.takeWhile isBlank = front := by
    rw [heq, htrim, List.takeWhile_append_of_pos hfront, List.cons_append,
      List.takeWhile_cons_of_neg (by rw [hc]; decide), List.append_nil]
  rw [hindent, ← htrim]
  exact heq

theorem displaced_iff {piece t : Text} {c : Char} (htrim : trim piece = c :: t) :
    Displaced piece ↔ c = '\'' ∧ piece.takeWhile isBlank ≠ [] := by
  have hfirst : (trimLeft piece).head? = some c := by
    rw [← head?_trim, htrim]
    rfl
  have hc : isBlank c = false := isBlank_of_head?_trim (s := piece) (by rw [htrim]; rfl)
  rw [Displaced, hfirst]
  cases piece with
  | nil => simp [trimLeft] at hfirst
  | cons d piece =>
      cases hd : isBlank d with
      | true =>
          have hne : d ≠ '\'' := by
            rintro rfl
            exact absurd hd (by decide)
          simp [hd, hne]
      | false =>
          rw [trimLeft, List.dropWhile_cons_of_neg (by rw [hd]; decide)] at hfirst
          simp_all

/-- The first character of a statement leads to the same place on its own as behind the blanks of its
piece, unless the piece is displaced. -/
theorem next_behind_blanks {piece t : Text} {c : Char} (htrim : trim piece = c :: t)
    (h : ¬ Displaced piece) : (start.after (piece.takeWhile isBlank)).next c = start.next c := by
  have hblanks : ∀ d ∈ piece.takeWhile isBlank, isBlank d = true :=
    List.all_eq_true.mp List.all_takeWhile
  rw [displaced_iff htrim, not_and, not_ne_iff] at h
  by_cases hc : c = '\''
  · rw [h hc, after_nil]
  · rw [start, after_blanks hblanks]
    exact nextOutside_congr hc 0 _ _

/-- The statement of a piece that is not displaced stays one when it is read on its own. -/
theorem whole_trim {piece : Text} (hwhole : Whole start piece) (hblank : isBlankText piece = false)
    (h : ¬ Displaced piece) : Whole start (trim piece) := by
  obtain ⟨c, t, back, htrim, heq⟩ := exists_eq_indented hblank
  have hblanks : ∀ d ∈ piece.takeWhile isBlank, isBlank d = true :=
    List.all_eq_true.mp List.all_takeWhile
  rw [heq, whole_append_iff, whole_append_iff, whole_cons_iff] at hwhole
  obtain ⟨-, ⟨hc, ht⟩, -⟩ := hwhole
  rw [next_behind_blanks htrim h] at ht
  rw [htrim]
  refine whole_cons_iff.mpr ⟨?_, ht⟩
  rwa [start, after_blanks hblanks] at hc

/-- In a statement the same characters are inside literals on both layouts exactly if its piece is
not displaced. -/
theorem isInLiteral_behind_blanks_iff {piece : Text} (hblank : isBlankText piece = false) :
    (∀ u v, trim piece = u ++ v →
      ((start.after (piece.takeWhile isBlank)).after u).isInLiteral =
        (start.after u).isInLiteral) ↔ ¬ Displaced piece := by
  obtain ⟨c, t, back, htrim, -⟩ := exists_eq_indented hblank
  have hblanks : ∀ d ∈ piece.takeWhile isBlank, isBlank d = true :=
    List.all_eq_true.mp List.all_takeWhile
  constructor
  · intro hsame hdisplaced
    -- the first apostrophe begins a literal behind blanks, and is a transpose on its own
    obtain ⟨rfl, hindent⟩ := (displaced_iff htrim).mp hdisplaced
    obtain ⟨front, b, hb⟩ := (List.eq_nil_or_concat' _).resolve_left hindent
    have hopens : isTranspose (some b) = false :=
      isTranspose_of_isBlank (hblanks b (by rw [hb]; simp))
    have hbehind : (nextOutside 0 (some b) '\'').isInLiteral = true := by
      simp [nextOutside, hopens, isQuote, isInLiteral]
    have halone : (start.after ['\'']).isInLiteral = false := rfl
    have hfirst := hsame ['\''] t htrim
    rw [start, after_blanks hblanks, hb, List.getLast?_concat, Option.some_or] at hfirst
    cases hbehind.symm.trans (hfirst.trans halone)
  · intro h u v huv
    cases u with
    | nil =>
        rw [start, after_blanks hblanks]
        rfl
    | cons d u =>
        rw [htrim, List.cons_append] at huv
        obtain ⟨rfl, -⟩ := List.cons.inj huv
        rw [after_cons, after_cons, next_behind_blanks htrim h]

/-! ## Statements of statements -/

theorem lineStatements_eq (line : Text) : Program.lineStatements line = split line := by
  rw [Program.lineStatements]
  split
  · rename_i hhead
    obtain ⟨rest, rfl⟩ : ∃ rest, line = '%' :: rest := by
      cases line with
      | nil => cases hhead
      | cons c rest =>
          obtain rfl := Option.some.inj hhead
          exact ⟨rest, rfl⟩
    have hpieces : pieces ('%' :: rest) = [[]] := piecesAt_percent (p := start) rfl rest
    rw [split, hpieces]
    rfl
  · rfl

theorem exists_piece_of_mem_split {line s : Text} (h : s ∈ split line) :
    ∃ before piece behind, pieces line = before ++ piece :: behind ∧
      isBlankText piece = false ∧ trim piece = s := by
  rw [split_eq] at h
  obtain ⟨piece, hpiece, rfl⟩ := List.mem_map.mp h
  obtain ⟨hmem, hblank⟩ := List.mem_filter.mp hpiece
  obtain ⟨before, behind, heq⟩ := List.append_of_mem hmem
  exact ⟨before, piece, behind, heq, by simpa using hblank, rfl⟩

theorem trim_of_mem_split {line s : Text} (h : s ∈ split line) : trim s = s := by
  obtain ⟨-, piece, -, -, -, rfl⟩ := exists_piece_of_mem_split h
  exact trim_trim piece

/-- A statement read on its own has statements. -/
theorem split_ne_nil_of_mem_split {line s : Text} (h : s ∈ split line) : split s ≠ [] := by
  obtain ⟨before, piece, behind, hpieces, hblank, rfl⟩ := exists_piece_of_mem_split h
  obtain ⟨-, hwhole, -⟩ := of_pieces_eq hpieces
  obtain ⟨c, t, back, htrim, heq⟩ := exists_eq_indented hblank
  have hc : isBlank c = false := isBlank_of_head?_trim (s := piece) (by rw [htrim]; rfl)
  have hends : start.ends c = false := by
    rw [heq, whole_append_iff, whole_append_iff, whole_cons_iff, start,
      after_blanks (List.all_eq_true.mp List.all_takeWhile)] at hwhole
    exact hwhole.2.1.1
  -- its first character is not blank and belongs to its first piece
  have hfirst : ∃ first rest, pieces (c :: t) = (c :: first) :: rest := by
    rw [pieces_eq_piecesAt, piecesAt_cons_of_kept (by simp [start]) hends]
    cases piecesAt (start.next c) t with
    | nil => exact ⟨[], [], rfl⟩
    | cons first rest => exact ⟨first, rest, rfl⟩
  obtain ⟨first, rest, hfirst⟩ := hfirst
  have hnot : isBlankText (c :: first) = false := by rw [isBlankText, List.all_cons, hc]; rfl
  rw [htrim, split, hfirst, List.filterMap_cons, hnot]
  exact List.cons_ne_nil _ _

theorem unbroken_of_mem_split {line s : Text} (hline : Unbroken line) (h : s ∈ split line) :
    Unbroken s := by
  obtain ⟨before, piece, behind, hpieces, -, rfl⟩ := exists_piece_of_mem_split h
  obtain ⟨-, -, rest, heq⟩ := of_pieces_eq hpieces
  intro c hc
  refine hline c ?_
  rw [heq]
  simp [mem_of_mem_trim hc]

end Statement

namespace Program

open Statement Place

/-! ## Lines of their own -/

/-- The statements of a program, without the numbers of their lines. -/
def texts (code : Text) : List Text :=
  (statements code).map Prod.snd

/-- The program that has each statement of a program on a line of its own. -/
def ownLines (code : Text) : Text :=
  join ['\n'] (texts code)

theorem texts_statementsFrom (number : Nat) (ls : List Text) :
    (statementsFrom number ls).map Prod.snd = ls.flatMap fun l => split (trim l) := by
  induction ls generalizing number with
  | nil => rfl
  | cons l ls ih =>
      have hcons : statementsFrom number (l :: ls) =
          (lineStatements (trim l)).map (fun statement => (number, statement)) ++
            statementsFrom (number + 1) ls := by
        simp [statementsFrom]
      rw [hcons, List.map_append, ih, List.flatMap_cons, lineStatements_eq, List.map_map]
      exact congrArg (· ++ _) (List.map_id _)

/-- The statements of a program are those of its lines. -/
theorem texts_eq (code : Text) : texts code = (lines code).flatMap fun l => split (trim l) :=
  texts_statementsFrom 1 (lines code)

/-- The statements of a program that is a single line. -/
theorem texts_line {line : Text} (hline : Unbroken line) : texts line = split (trim line) := by
  rw [texts_eq, lines_of_unbroken hline]
  cases line with
  | nil => rfl
  | cons c line => exact List.append_nil _

theorem exists_line_of_mem_texts {code s : Text} (h : s ∈ texts code) :
    ∃ line, Unbroken line ∧ s ∈ split line := by
  rw [texts_eq] at h
  obtain ⟨l, hl, hs⟩ := List.mem_flatMap.mp h
  refine ⟨trim l, fun c hc => ?_, hs⟩
  exact unbroken_of_mem_lines hl c (mem_of_mem_trim hc)

/-- The statements of a program that has those of another one on lines of their own. -/
theorem texts_ownLines (code : Text) : texts (ownLines code) = (texts code).flatMap split := by
  have hunbroken : ∀ s ∈ texts code, Unbroken s := by
    intro s hs
    obtain ⟨line, hline, hmem⟩ := exists_line_of_mem_texts hs
    exact unbroken_of_mem_split hline hmem
  rw [texts, ownLines, statements_join hunbroken, texts_statementsFrom]
  refine List.flatMap_congr fun s hs => ?_
  obtain ⟨line, -, hmem⟩ := exists_line_of_mem_texts hs
  rw [trim_of_mem_split hmem]

theorem length_le_length_flatMap {f : Text → List Text} {l : List Text} (h : ∀ x ∈ l, f x ≠ []) :
    l.length ≤ (l.flatMap f).length := by
  induction l with
  | nil => exact Nat.le_refl 0
  | cons x l ih =>
      have hx := List.length_pos_iff.mpr (h x List.mem_cons_self)
      have hl := ih fun y hy => h y (List.mem_cons_of_mem _ hy)
      rw [List.flatMap_cons, List.length_append, List.length_cons]
      omega

/-- Splitting the elements of a list, none of which vanishes, changes nothing of it exactly if it
changes none of them. -/
theorem flatMap_eq_self_iff {f : Text → List Text} {l : List Text} (h : ∀ x ∈ l, f x ≠ []) :
    l.flatMap f = l ↔ ∀ x ∈ l, f x = [x] := by
  induction l with
  | nil => simp
  | cons x l ih =>
      have hl : ∀ y ∈ l, f y ≠ [] := fun y hy => h y (List.mem_cons_of_mem _ hy)
      obtain ⟨y, ys, hx⟩ := List.exists_cons_of_ne_nil (h x List.mem_cons_self)
      rw [List.flatMap_cons, List.forall_mem_cons]
      constructor
      · intro heq
        rw [hx, List.cons_append] at heq
        obtain ⟨rfl, hrest⟩ := List.cons.inj heq
        -- the others keep their number, so nothing is left over of the first one
        have hsum := congrArg List.length hrest
        rw [List.length_append] at hsum
        have hle := length_le_length_flatMap hl
        obtain rfl : ys = [] := List.eq_nil_of_length_eq_zero (by omega)
        exact ⟨hx, (ih hl).mp hrest⟩
      · rintro ⟨hfx, hrest⟩
        rw [hfx, (ih hl).mpr hrest]
        rfl

/-- The two layouts have the same statements exactly if each statement is one statement again. -/
theorem texts_ownLines_iff (code : Text) :
    texts (ownLines code) = texts code ↔ ∀ s ∈ texts code, split s = [s] := by
  rw [texts_ownLines]
  refine flatMap_eq_self_iff fun s hs => ?_
  obtain ⟨line, -, hmem⟩ := exists_line_of_mem_texts hs
  exact split_ne_nil_of_mem_split hmem

/-! ## Runs of the same statements -/

/-- Two runs that came to the same, but for the line of a failure. -/
structure Progress.SameButLine (p q : Progress) : Prop where
  state : p.state = q.state
  steps : p.steps = q.steps
  failure : p.stop.map Stop.failure = q.stop.map Stop.failure

theorem runFrom_sameButLine (s : Settings) (clock draw : Nat → Float) {xs ys : List (Nat × Text)}
    (h : xs.map Prod.snd = ys.map Prod.snd) (steps : Nat) (st : State) :
    (runFrom s clock draw steps st xs).SameButLine (runFrom s clock draw steps st ys) := by
  induction xs generalizing ys steps st with
  | nil =>
      obtain rfl : ys = [] := List.map_eq_nil_iff.mp h.symm
      exact ⟨rfl, rfl, rfl⟩
  | cons x xs ih =>
      obtain ⟨line, text⟩ := x
      obtain ⟨⟨line', text'⟩, ys, rfl, rfl, hrest⟩ := List.map_eq_cons_iff.mp h.symm
      by_cases hlate : s.maxTime < clock (steps + 1) - clock 0
      · rw [runFrom, if_pos hlate, runFrom, if_pos hlate]
        exact ⟨rfl, rfl, rfl⟩
      by_cases hmany : s.maxSteps < (steps + 1 : Nat)
      · rw [runFrom, if_neg hlate, if_pos hmany, runFrom, if_neg hlate, if_pos hmany]
        exact ⟨rfl, rfl, rfl⟩
      rcases hrun : Statement.run s draw st text' with ⟨st', failure | failure⟩
      · rw [runFrom_of_success ⟨hlate, hmany⟩ hrun, runFrom_of_success ⟨hlate, hmany⟩ hrun]
        exact ih hrest.symm (steps + 1) st'
      · rw [runFrom_of_failure ⟨hlate, hmany⟩ hrun, runFrom_of_failure ⟨hlate, hmany⟩ hrun]
        exact ⟨rfl, rfl, rfl⟩

/-- Two outcomes that are the same, but for the line that the error message of a failure names. -/
inductive SameOutcome : Outcome → Outcome → Prop
  | same (o : Outcome) : SameOutcome o o
  | failed (failure : Failure) (line line' : Nat) (printed : List Text) (elapsed : Option Float) :
      SameOutcome
        (.failed (failure.messageAt line) (printed ++ [errorLine (failure.messageAt line)]) elapsed)
        (.failed (failure.messageAt line') (printed ++ [errorLine (failure.messageAt line')])
          elapsed)

theorem Progress.SameButLine.outcome {p q : Progress} (h : p.SameButLine q) (clock : Nat → Float) :
    SameOutcome (p.outcome clock) (q.outcome clock) := by
  obtain ⟨state, steps, stop⟩ := p
  obtain ⟨_, _, stop'⟩ := q
  obtain ⟨rfl, rfl, hfailure⟩ := h
  cases stop with
  | none =>
      obtain rfl : stop' = none := Option.map_eq_none_iff.mp hfailure.symm
      exact .same _
  | some stop =>
      obtain ⟨stop', rfl, heq⟩ := Option.map_eq_some_iff.mp hfailure.symm
      simp only [Progress.outcome, Stop.message, heq]
      exact .failed stop.failure stop.line stop'.line state.transcript _

/-! ## The two layouts -/

/-- A statement of a line is one statement again exactly if nothing in it ends a piece when it is read
on its own, and it is if its piece is not displaced; then, and only then, the same of its characters
are inside literals on both layouts.  The two layouts of a program have the same statements exactly
if all of them are one statement again, and then they run to the same outcome. -/
theorem split_self_iff (line : Text) :
    (∀ s ∈ split line, split s = [s] ↔ Whole start s) ∧
    (∀ before piece behind, pieces line = before ++ piece :: behind → isBlankText piece = false →
      trim piece ∈ split line ∧
      (¬ Displaced piece → split (trim piece) = [trim piece]) ∧
      ∃ indent rest, line = lead before ++ (indent ++ (trim piece ++ rest)) ∧
        ((∀ u v, trim piece = u ++ v →
          (start.after (lead before ++ (indent ++ u))).isInLiteral = (start.after u).isInLiteral) ↔
            ¬ Displaced piece)) ∧
    (Unbroken line → texts line = split (trim line)) ∧
    (texts (ownLines line) = texts line ↔ ∀ s ∈ texts line, split s = [s]) ∧
    ((∀ s ∈ texts line, split s = [s]) → ∀ s clock draw,
      SameOutcome (run s clock draw line) (run s clock draw (ownLines line))) := by
  refine ⟨fun s hs => ?_, fun before piece behind hpieces hblank => ?_, texts_line, ?_, ?_⟩
  · exact split_eq_singleton_iff (trim_of_mem_split hs) (isBlankText_of_mem_split hs)
  · have hmem : trim piece ∈ split line := by
      rw [split_eq, hpieces]
      exact List.mem_map_of_mem (List.mem_filter.mpr ⟨by simp, by simp [hblank]⟩)
    -- the place of a piece in its line is that of the statement, blanks around it aside
    obtain ⟨hplace, hwhole, rest, hline⟩ := of_pieces_eq hpieces
    obtain ⟨c, t, back, htrim, hpiece⟩ := exists_eq_indented hblank
    refine ⟨hmem, fun h => ?_, piece.takeWhile isBlank, ?_⟩
    · exact (split_eq_singleton_iff (trim_of_mem_split hmem) (isBlankText_trim hblank)).mpr
        (whole_trim hwhole hblank h)
    · refine ⟨back ++ rest, ?_, ?_⟩
      · rw [htrim]
        conv_lhs => rw [hline, hpiece]
        simp
      · simp only [after_append, hplace]
        exact isInLiteral_behind_blanks_iff hblank
  · exact texts_ownLines_iff line
  · intro h s clock draw
    have htexts := ((texts_ownLines_iff line).mpr h).symm
    exact (runFrom_sameButLine s clock draw htexts 0 (.initial 0)).outcome clock

/-- A transpose, and marks in a literal and in brackets, with blanks before the statements. -/
theorem split_self_of_marks :
    let line : Text := "a = x';  b = 'c;%'; d = [1;2]"
    pieces line = ["a = x'".toList] ++ "  b = 'c;%'".toList :: [" d = [1;2]".toList] ∧
    split "b = 'c;%'" = ["b = 'c;%'".toList] ∧
    texts line = ["a = x'".toList, "b = 'c;%'".toList, "d = [1;2]".toList] ∧
    texts (ownLines line) = texts line ∧
    SameOutcome (run .standard (fun _ => 0.0) (fun _ => 0.0) line)
      (run .standard (fun _ => 0.0) (fun _ => 0.0) (ownLines line)) := by
  intro line
  obtain ⟨-, hpiece, hline, hsame, hrun⟩ := split_self_iff line
  have hpieces : pieces line =
      ["a = x'".toList] ++ "  b = 'c;%'".toList :: [" d = [1;2]".toList] := by decide +kernel
  have hplaced : ¬ Displaced "  b = 'c;%'" := by
    rw [Displaced]
    decide +kernel
  have htexts : texts line = ["a = x'".toList, "b = 'c;%'".toList, "d = [1;2]".toList] :=
    (hline (unbroken_of_all (by decide +kernel))).trans (by decide +kernel)
  have hsplit : ∀ s ∈ texts line, split s = [s] := by
    rw [htexts]
    decide +kernel
  exact ⟨hpieces, (hpiece _ _ _ hpieces (by decide +kernel)).2.1 hplaced, htexts, hsame.mpr hsplit,
    hrun hsplit _ _ _⟩

/-- The literal of a statement is cut in two when the statement is read without the blank before it. -/
theorem literal_not_split_self :
    let line : Text := "a; 'x;y'"
    let transcript (code : Text) :=
      (execute .standard (fun _ => 0.0) (fun _ => 0.0) 0 code).state.transcript
    split line = ["a".toList, "'x;y'".toList] ∧
    split "'x;y'" = ["'x".toList, "y'".toList] ∧
    (start.after "a; 'x").isInLiteral = true ∧ (start.after "'x").isInLiteral = false ∧
    transcript line = ["a".toList, "'x;y'".toList] ∧
    transcript (ownLines line) = ["a".toList, "'x".toList, "y'".toList] := by
  decide +kernel

end Program

end SignalLab
