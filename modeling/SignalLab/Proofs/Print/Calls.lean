import Mathlib.Data.List.Forall2
import SignalLab.Proofs.Print.Arguments
import SignalLab.Proofs.Print.Formats
import SignalLab.Proofs.Program.Frame
import SignalLab.Proofs.Program.Printing

/-!
# Print calls — printed in full, cut off by the limit, or skipped

A print call either writes a text or is skipped.  `WellFormed` is the notation of calls, `Skipped`
lists what can be wrong with one (its notation, one of its arguments, a format that does not suit
them), and `Writes` says what one writes otherwise; no call does both and every call does one
(`skipped_iff`).  A skipped call changes nothing at all.  The others print the lines of their text,
and the only way they can fail is that the transcript is full (`run_prints`).
-/

namespace SignalLab

open Text Fallible

/-! ## Cutting at separators -/

namespace Text

variable {sep : Char} {back : Text}

/-- A blank is no quote and no bracket. -/
theorem plain_of_isBlank {c : Char} (hc : isBlank c = true) :
    isQuote c = false ∧ isOpening c = false ∧ isClosing c = false :=
  forall_blank (p := fun c => isQuote c = false ∧ isOpening c = false ∧ isClosing c = false)
    (by decide +kernel) hc

theorem partsFrom_blanks (hsep : isBlank sep = false) (hback : isBlankText back = true)
    (quote : Option Char) (depth : Int) : partsFrom sep quote depth back = [back] := by
  induction back generalizing quote with
  | nil => rfl
  | cons c back ih =>
      have hc : isBlank c = true := isBlankText_iff.mp hback c List.mem_cons_self
      have hrest := ih (isBlankText_iff.mpr fun d hd =>
        isBlankText_iff.mp hback d (List.mem_cons_of_mem _ hd))
      obtain ⟨hquote, hopening, hclosing⟩ := plain_of_isBlank hc
      have hne : ¬ (c = sep ∧ depth = 0) := by
        rintro ⟨rfl, -⟩
        rw [hc] at hsep
        cases hsep
      cases quote with
      | none =>
          rw [partsFrom.eq_def]
          simp only [hquote, hopening, hclosing, Bool.false_eq_true, if_false, if_neg hne]
          rw [hrest]
          rfl
      | some q =>
          rw [partsFrom.eq_def]
          simp only
          rw [hrest]
          rfl

/-- Blanks behind a text belong to its last part. -/
theorem exists_partsFrom_append_blanks (hsep : isBlank sep = false)
    (hback : isBlankText back = true) (quote : Option Char) (depth : Int) (s : Text) :
    ∃ front last, partsFrom sep quote depth s = front ++ [last] ∧
      partsFrom sep quote depth (s ++ back) = front ++ [last ++ back] := by
  have hadd : ∀ (c : Char) (parts parts' : List Text),
      (∃ front last, parts = front ++ [last] ∧ parts' = front ++ [last ++ back]) →
      ∃ front last, addToFirst c parts = front ++ [last] ∧
        addToFirst c parts' = front ++ [last ++ back] := by
    rintro c _ _ ⟨front, last, rfl, rfl⟩
    cases front with
    | nil => exact ⟨[], c :: last, rfl, rfl⟩
    | cons part front => exact ⟨(c :: part) :: front, last, rfl, rfl⟩
  induction s generalizing quote depth with
  | nil =>
      refine ⟨[], [], by rw [partsFrom]; rfl, ?_⟩
      rw [List.nil_append, partsFrom_blanks hsep hback]
      rfl
  | cons c s ih =>
      rw [List.cons_append, partsFrom.eq_def, partsFrom.eq_def]
      cases quote with
      | some q => exact hadd c _ _ (ih _ _)
      | none =>
          simp only
          split
          · exact hadd c _ _ (ih _ _)
          split
          · exact hadd c _ _ (ih _ _)
          split
          · exact hadd c _ _ (ih _ _)
          split
          · -- a cut: the parts behind it are those of the rest
            obtain ⟨front, last, hs, hback⟩ := ih none depth
            refine ⟨[] :: front, last, ?_, ?_⟩
            · rw [hs, List.cons_append]
            · rw [hback, List.cons_append]
          · exact hadd c _ _ (ih _ _)

theorem map_trim_splitTopLevel_append (hsep : isBlank sep = false)
    (hback : isBlankText back = true) (s : Text) :
    (splitTopLevel sep (s ++ back)).map trim = (splitTopLevel sep s).map trim := by
  obtain ⟨front, last, hs, hlast⟩ := exists_partsFrom_append_blanks hsep hback none 0 s
  rw [splitTopLevel, splitTopLevel, hs, hlast, List.map_append, List.map_append,
    List.map_singleton, List.map_singleton, trim_append_blanks hback]

end Text

namespace Print

/-! ## Notation -/

/-- What may stand behind a format: blanks, or a comma and arguments, which end at the commas outside
quotes and brackets. -/
inductive Lists (rest : Text) : List Text → Prop
  | nothing (blank : isBlankText rest = true) : Lists rest []
  | arguments {gap list : Text} (blank : isBlankText gap = true) (split : rest = gap ++ ',' :: list) :
      Lists rest ((splitTopLevel ',' list).map trim)

/-- The notation of print calls: a quoted format in parentheses, and arguments behind it. -/
def WellFormed (statement format : Text) (args : List Text) : Prop :=
  ∃ gap lead q rest tail, isBlankText gap = true ∧ isBlankText lead = true ∧ isQuote q = true ∧
    rest.head? ≠ some q ∧ Lists rest args ∧ (tail = [] ∨ tail = ['\n']) ∧
    statement = "fprintf".toList ++
      (gap ++ '(' :: (lead ++ (quoteText q format ++ rest) ++ ')' :: tail))

theorem callBody?_eq_some_iff {statement body : Text} :
    callBody? statement = some body ↔
      ∃ gap tail, isBlankText gap = true ∧ (tail = [] ∨ tail = ['\n']) ∧
        statement = "fprintf".toList ++ (gap ++ '(' :: (body ++ ')' :: tail)) := by
  unfold callBody?
  simp only [Option.bind_eq_bind, Option.bind_eq_some_iff]
  constructor
  · rintro ⟨rest, hcall, heq⟩
    obtain ⟨gap, hgap, rfl⟩ := afterCall?_eq_some_iff.mp hcall
    split at heq
    · rename_i hlast
      obtain ⟨body', rfl⟩ := List.getLast?_eq_some_iff.mp hlast
      rw [List.dropLast_concat] at heq
      cases heq
      exact ⟨gap, [], isBlankText_iff.mpr hgap, .inl rfl, rfl⟩
    · split at heq
      · rename_i hlast
        obtain ⟨front, rfl⟩ := List.getLast?_eq_some_iff.mp hlast.1
        rw [List.dropLast_concat] at hlast heq
        obtain ⟨body', rfl⟩ := List.getLast?_eq_some_iff.mp hlast.2
        rw [List.dropLast_concat] at heq
        cases heq
        refine ⟨gap, ['\n'], isBlankText_iff.mpr hgap, .inr rfl, ?_⟩
        rw [List.append_assoc, List.singleton_append]
      · cases heq
  · rintro ⟨gap, tail, hgap, htail, rfl⟩
    refine ⟨body ++ ')' :: tail, afterCall?_eq_some_iff.mpr ⟨gap, isBlankText_iff.mp hgap, rfl⟩, ?_⟩
    rcases htail with rfl | rfl
    · rw [if_pos List.getLast?_concat, List.dropLast_concat]
    · have hsplit : body ++ [')', '\n'] = (body ++ [')']) ++ ['\n'] := by
        rw [List.append_assoc, List.singleton_append]
      rw [hsplit, List.getLast?_concat, List.dropLast_concat, List.getLast?_concat,
        List.dropLast_concat, if_neg (by decide), if_pos ⟨rfl, rfl⟩]

theorem argumentTexts?_eq_some_iff {rest : Text} {args : List Text} :
    argumentTexts? rest = some args ↔ Lists rest args := by
  have hcomma : isBlank ',' = false := by decide
  constructor
  · intro h
    rw [argumentTexts?] at h
    split at h
    · rename_i hnil
      cases h
      exact .nothing (trim_eq_nil_iff.mp hnil)
    · rename_i c s hcons
      split at h
      · rename_i hc
        cases h
        obtain ⟨gap, back, hgap, hback, hrest⟩ := exists_eq_append_trim_append rest
        rw [hcons, hc] at hrest
        -- the blanks behind the arguments are trimmed off the last of them anyway
        rw [← map_trim_splitTopLevel_append hcomma hback]
        exact .arguments hgap hrest
      · cases h
  · rintro (hblank | ⟨hgap, rfl⟩)
    · rw [argumentTexts?, trim_eq_nil_iff.mpr hblank]
    · rename_i gap list
      obtain ⟨back, hback, hlist⟩ := exists_eq_trimRight_append list
      rw [argumentTexts?, trim_blanks_append hgap hcomma]
      show some ((splitTopLevel ',' (trimRight list)).map trim) = _
      rw [← map_trim_splitTopLevel_append hcomma hback, ← hlist]

theorem call?_eq_some_iff {statement format : Text} {args : List Text} :
    call? statement = some (format, args) ↔ WellFormed statement format args := by
  unfold call?
  simp only [Option.bind_eq_bind, Option.bind_eq_some_iff, Prod.exists]
  constructor
  · rintro ⟨body, hbody, format', rest, hliteral, args', hargs, heq⟩
    cases heq
    obtain ⟨gap, tail, hgap, htail, rfl⟩ := callBody?_eq_some_iff.mp hbody
    obtain ⟨lead, q, hlead, hq, hrest, rfl⟩ := takeLiteral?_eq_some_iff.mp hliteral
    exact ⟨gap, lead, q, rest, tail, hgap, hlead, hq, hrest, argumentTexts?_eq_some_iff.mp hargs,
      htail, rfl⟩
  · rintro ⟨gap, lead, q, rest, tail, hgap, hlead, hq, hrest, hargs, htail, rfl⟩
    exact ⟨_, callBody?_eq_some_iff.mpr ⟨gap, tail, hgap, htail, rfl⟩, format, rest,
      takeLiteral?_eq_some_iff.mpr ⟨lead, q, hlead, hq, hrest, rfl⟩, args,
      argumentTexts?_eq_some_iff.mpr hargs, rfl⟩

/-! ## Written and skipped -/

/-- What is wrong with a print call that prints nothing. -/
inductive Skipped (store : Store) (statement : Text) : Prop
  | malformed (h : ∀ format args, ¬ WellFormed statement format args)
  | argument {format arg : Text} {args : List Text} (call : WellFormed statement format args)
      (mem : arg ∈ args) (rejected : Rejected store arg)
  | format {format unescaped : Text} {args : List Text} {values : List Argument}
      (call : WellFormed statement format args) (denotes : List.Forall₂ (Denotes store) args values)
      (unescapes : Unescapes format unescaped) (refused : ∀ w, ¬ IsWritten unescaped values w)

/-- Whether a print call writes symbols: its format, with the escapes replaced, does so with what its
arguments denote. -/
def Writes (store : Store) (statement : Text) (written : List Symbol) : Prop :=
  ∃ format unescaped args values, WellFormed statement format args ∧
    List.Forall₂ (Denotes store) args values ∧ Unescapes format unescaped ∧
    IsWritten unescaped values written

/-- The lines of a text: line feeds stand between them, and one may stand behind the last. -/
structure AreLines (written : Text) (lines : List Text) : Prop where
  ne_nil : lines ≠ []
  unbroken : ∀ line ∈ lines, '\n' ∉ line
  joined : written = join ['\n'] lines ++ ['\n'] ∨
    (written = join ['\n'] lines ∧ written.getLast? ≠ some '\n')

variable {store : Store}

/-- Arguments are read one after the other, each as what it denotes. -/
theorem mapM_argument_eq_ok_iff {args : List Text} {values : List Argument} :
    args.mapM (argument store) = .ok values ↔ List.Forall₂ (Denotes store) args values := by
  induction args generalizing values with
  | nil =>
      rw [List.mapM_nil]
      constructor
      · rintro ⟨⟩
        exact .nil
      · rintro ⟨⟩
        rfl
  | cons arg args ih =>
      rw [List.mapM_cons, bind_ok_iff]
      constructor
      · rintro ⟨a, ha, h⟩
        obtain ⟨as, has, h⟩ := bind_ok_iff.mp h
        cases h
        exact .cons (argument_eq_ok_iff.mp ha) (ih.mp has)
      · rintro (_ | ⟨ha, has⟩)
        exact ⟨_, argument_eq_ok_iff.mpr ha, bind_ok_iff.mpr ⟨_, ih.mpr has, rfl⟩⟩

/-- The arguments of a call are read, or one of them is rejected. -/
theorem exists_denotes_or_rejected (store : Store) (args : List Text) :
    (∃ values, List.Forall₂ (Denotes store) args values) ∨ ∃ arg ∈ args, Rejected store arg := by
  by_cases h : ∃ arg ∈ args, Rejected store arg
  · exact .inr h
  · have hread : ∀ arg ∈ args, ∃ a, argument store arg = .ok a := by
      intro arg hmem
      rcases denotes_or_rejected store arg with ⟨a, ha⟩ | hrejected
      · exact ⟨a, ha.argument⟩
      · exact absurd ⟨arg, hmem, hrejected⟩ h
    obtain ⟨values, hvalues⟩ := exists_mapM_ok hread
    exact .inl ⟨values, mapM_argument_eq_ok_iff.mp hvalues⟩

/-- What a call renders is what its format writes with what its arguments denote. -/
theorem render_eq_ok_iff {format : Text} {args : List Text} {w : List Symbol} :
    render store format args = .ok w ↔
      ∃ unescaped values, List.Forall₂ (Denotes store) args values ∧ Unescapes format unescaped ∧
        IsWritten unescaped values w := by
  rw [render, bind_ok_iff]
  constructor
  · rintro ⟨values, hvalues, hw⟩
    exact ⟨unescape format, values, mapM_argument_eq_ok_iff.mp hvalues, unescapes_iff.mpr rfl,
      write_eq_ok_iff.mp hw⟩
  · rintro ⟨unescaped, values, hdenotes, hunescapes, hw⟩
    rw [unescapes_iff.mp hunescapes] at hw
    exact ⟨values, mapM_argument_eq_ok_iff.mpr hdenotes, write_eq_ok_iff.mpr hw⟩

theorem outputLines_eq_iff {written : Text} {lines : List Text} :
    outputLines written = lines ↔ AreLines written lines := by
  constructor
  · rintro rfl
    by_cases hlast : written.getLast? = some '\n'
    · obtain ⟨front, rfl⟩ := List.getLast?_eq_some_iff.mp hlast
      rw [outputLines_append_newline]
      refine ⟨splitAt_ne_nil _ _, fun _ => not_mem_of_mem_splitAt, .inl ?_⟩
      rw [join, splitAt, List.intercalate_splitOn]
    · rw [outputLines, if_neg hlast]
      refine ⟨splitAt_ne_nil _ _, fun _ => not_mem_of_mem_splitAt, .inr ⟨?_, hlast⟩⟩
      rw [join, splitAt, List.intercalate_splitOn]
  · rintro ⟨hne, hunbroken, rfl | ⟨rfl, hlast⟩⟩
    · rw [outputLines_append_newline]
      exact List.splitOn_intercalate '\n' hunbroken hne
    · rw [outputLines, if_neg hlast]
      exact List.splitOn_intercalate '\n' hunbroken hne

/-- What a call renders, as a statement. -/
theorem exists_render_iff {statement : Text} {w : List Symbol} :
    (∃ format args, call? statement = some (format, args) ∧ render store format args = .ok w) ↔
      Writes store statement w := by
  constructor
  · rintro ⟨format, args, hcall, hrender⟩
    obtain ⟨unescaped, values, hdenotes, hunescapes, hw⟩ := render_eq_ok_iff.mp hrender
    exact ⟨format, unescaped, args, values, call?_eq_some_iff.mp hcall, hdenotes, hunescapes, hw⟩
  · rintro ⟨format, unescaped, args, values, hcall, hdenotes, hunescapes, hw⟩
    exact ⟨format, args, call?_eq_some_iff.mpr hcall,
      render_eq_ok_iff.mpr ⟨unescaped, values, hdenotes, hunescapes, hw⟩⟩

/-- A print call has lines to print exactly if it writes something, and they are the lines of it. -/
theorem lines?_eq_some_iff {statement : Text} {lines : List Text} :
    lines? store statement = some lines ↔
      ∃ w, Writes store statement w ∧ AreLines (w.map Symbol.shown) lines := by
  constructor
  · intro h
    cases hcall : call? statement with
    | none => cases (lines?_of_not_call hcall store).symm.trans h
    | some call =>
        obtain ⟨format, args⟩ := call
        rw [lines?_of_call hcall, Option.map_eq_some_iff] at h
        obtain ⟨w, hrender, hlines⟩ := h
        exact ⟨w, exists_render_iff.mp ⟨format, args, hcall, toOption_eq_some_iff.mp hrender⟩,
          outputLines_eq_iff.mp hlines⟩
  · rintro ⟨w, hwrites, hlines⟩
    obtain ⟨format, args, hcall, hrender⟩ := exists_render_iff.mpr hwrites
    rw [lines?_of_call hcall, hrender]
    exact congrArg some (outputLines_eq_iff.mpr hlines)

/-- Arguments that denote something are not rejected. -/
theorem not_rejected_of_denotes {arg : Text} {args : List Text} {values : List Argument}
    (h : List.Forall₂ (Denotes store) args values) (hmem : arg ∈ args) : ¬ Rejected store arg := by
  induction h with
  | nil => cases hmem
  | cons ha _ ih =>
      rcases List.mem_cons.mp hmem with rfl | hmem
      · exact fun hrejected => rejected_iff.mp hrejected _ ha
      · exact ih hmem

/-- A call that writes something is not skipped. -/
theorem not_skipped_of_writes {statement : Text} {w : List Symbol}
    (hwrites : Writes store statement w) : ¬ Skipped store statement := by
  obtain ⟨format, unescaped, args, values, hcall, hdenotes, hunescapes, hw⟩ := hwrites
  have hsame : ∀ {format' args'}, WellFormed statement format' args' → format = format' ∧ args = args' :=
    fun h => Prod.mk.inj (Option.some.inj
      ((call?_eq_some_iff.mpr hcall).symm.trans (call?_eq_some_iff.mpr h)))
  rintro (hmalformed | ⟨hcall', hmem, hrejected⟩ | ⟨hcall', hdenotes', hunescapes', hrefused⟩)
  · exact hmalformed format args hcall
  · obtain ⟨rfl, rfl⟩ := hsame hcall'
    exact not_rejected_of_denotes hdenotes hmem hrejected
  · -- the arguments and the format are read as one thing only
    obtain ⟨rfl, rfl⟩ := hsame hcall'
    obtain rfl := Except.ok.inj ((mapM_argument_eq_ok_iff.mpr hdenotes).symm.trans
      (mapM_argument_eq_ok_iff.mpr hdenotes'))
    obtain rfl := (unescapes_iff.mp hunescapes).trans (unescapes_iff.mp hunescapes').symm
    exact hrefused _ hw

/-- Every print call writes something or is skipped, and none does both. -/
theorem skipped_iff {statement : Text} :
    Skipped store statement ↔ ∀ w, ¬ Writes store statement w := by
  constructor
  · intro h w hwrites
    exact not_skipped_of_writes hwrites h
  · intro h
    by_cases hcall : ∃ format args, WellFormed statement format args
    · obtain ⟨format, args, hcall⟩ := hcall
      rcases exists_denotes_or_rejected store args with ⟨values, hdenotes⟩ | ⟨arg, hmem, hrejected⟩
      · exact .format hcall hdenotes (unescapes_iff.mpr rfl) fun w hw =>
          h w ⟨format, _, args, values, hcall, hdenotes, unescapes_iff.mpr rfl, hw⟩
      · exact .argument hcall hmem hrejected
    · exact .malformed fun format args hformed => hcall ⟨format, args, hformed⟩

/-- A print call has nothing to print exactly if something is wrong with it. -/
theorem lines?_eq_none_iff {statement : Text} :
    lines? store statement = none ↔ Skipped store statement := by
  rw [skipped_iff]
  constructor
  · intro h w hwrites
    cases h.symm.trans (lines?_eq_some_iff.mpr ⟨w, hwrites, outputLines_eq_iff.mp rfl⟩)
  · intro h
    cases hlines : lines? store statement with
    | none => rfl
    | some lines =>
        obtain ⟨w, hwrites, -⟩ := lines?_eq_some_iff.mp hlines
        exact absurd hwrites (h w)

/-- Without arguments every format is written, with its escapes replaced and its doubled percent signs
as one. -/
theorem exists_writes_of_no_arguments {statement format : Text}
    (h : WellFormed statement format []) :
    ∃ unescaped t, Unescapes format unescaped ∧ Halves unescaped t ∧
      Writes store statement (symbols t) :=
  ⟨unescape format, substitutePair '%' '%' '%' (unescape format), unescapes_iff.mpr rfl,
    halves_iff.mpr rfl, format, unescape format, [], [], h, .nil, unescapes_iff.mpr rfl,
    .plain (halves_iff.mpr rfl)⟩

end Print

/-! ## Execution -/

namespace Statement

open Print

variable {s : Settings} {st st' : State} {text : Text}

/-- Lines that are all printed leave the transcript within the limit. -/
theorem fits_of_emitAll_ok {lines : List Text} (hne : lines ≠ [])
    (h : emitAll s st lines = (st', none)) :
    (transcriptSize (st.transcript ++ lines) : Int) ≤ s.maxOutput := by
  cases lines with
  | nil => exact absurd rfl hne
  | cons line lines =>
      have hall := emitAll_ok h
      rw [emitAll_cons] at h
      split at h
      · rename_i hfirst
        have hsize : (transcriptSize (emitAll s (st.withLines [line]) lines).1.transcript : Int) ≤
            s.maxOutput := size_emitAll_le hfirst lines
        rw [h, hall] at hsize
        exact hsize
      · cases h

/-- What a print call comes to. -/
structure PrintResult (s : Settings) (st : State) (text : Text) (result : State × Option Failure) :
    Prop where
  /-- Lines are added to the transcript, and nothing else changes. -/
  state : ∃ lines, result.1 = st.withLines lines
  /-- The only failure is that the transcript is full. -/
  failure : result.2 = none ∨ result.2 = some (.breach .output)
  /-- A call that something is wrong with changes nothing and is no failure. -/
  skipped : Skipped st.store text → result = (st, none)
  /-- Any other call prints its text line by line as far as the limit admits. -/
  written : ∀ w, Writes st.store text w → ∃ lines, AreLines (w.map Symbol.shown) lines ∧
    ((transcriptSize (st.transcript ++ lines) : Int) ≤ s.maxOutput →
      result = (st.withLines lines, none)) ∧
    (s.maxOutput < (transcriptSize (st.transcript ++ lines) : Int) →
      ∃ front, front <+: lines ∧ front ≠ lines ∧
        result = (st.withLines front, some (.breach .output)))

theorem run_of_prints (s : Settings) (draw : Nat → Float) (st : State) (h : Prints text) :
    run s draw st text = emitAll s st ((Print.lines? st.store text).getD []) := by
  rw [run, ofText, h.1]
  show (if isCall text = true then Statement.print text else _).exec s draw st = _
  rw [if_pos h.2]
  exact exec_print s draw st text

/-- A call that something is wrong with changes nothing. -/
theorem run_of_skipped (s : Settings) (draw : Nat → Float) (h : Prints text)
    (hskipped : Skipped st.store text) : run s draw st text = (st, none) := by
  rw [run_of_prints s draw st h, lines?_eq_none_iff.mpr hskipped]
  rfl

/-- A print call that something is wrong with is skipped, any other writes a text, and it can fail only
because the transcript is full. -/
theorem run_prints (s : Settings) (draw : Nat → Float) (st : State) (h : Prints text) :
    PrintResult s st text (run s draw st text) ∧
    (Skipped st.store text ↔ ∀ w, ¬ Writes st.store text w) ∧
    ∀ format, WellFormed text format [] → ∃ unescaped t, Unescapes format unescaped ∧
      Halves unescaped t ∧ Writes st.store text (symbols t) := by
  refine ⟨⟨?_, ?_, run_of_skipped s draw h, fun w hwrites => ?_⟩, skipped_iff,
    fun format => exists_writes_of_no_arguments⟩
  all_goals rw [run_of_prints s draw st h]
  · obtain ⟨front, -, hfront⟩ := emitAll_eq_withLines s st ((Print.lines? st.store text).getD [])
    exact ⟨front, hfront⟩
  · rcases hresult : emitAll s st ((Print.lines? st.store text).getD []) with ⟨st', _ | failure⟩
    · exact .inl rfl
    · exact .inr (congrArg some (emitAll_breach hresult).1)
  · generalize hlines : outputLines (w.map Symbol.shown) = lines
    have hlines : AreLines (w.map Symbol.shown) lines := outputLines_eq_iff.mp hlines
    rw [lines?_eq_some_iff.mpr ⟨w, hwrites, hlines⟩, Option.getD_some]
    refine ⟨lines, hlines, emitAll_of_fits, fun hfull => ?_⟩
    rcases hresult : emitAll s st lines with ⟨st', _ | failure⟩
    · have hfits := fits_of_emitAll_ok hlines.ne_nil hresult
      omega
    · obtain ⟨rfl, front, line, rest, hsplit, hfront⟩ := emitAll_breach hresult
      rw [hsplit, emitAll_ok hfront]
      refine ⟨front, List.prefix_append _ _, fun heq => ?_, rfl⟩
      exact List.cons_ne_nil _ _ (List.self_eq_append_right.mp heq)

/-- A call that prints an integer, a percent sign and an element to two places, one that writes the code
point of a surrogate, and one that is skipped since its argument is not bound. -/
theorem run_prints_of_numbers :
    let st : State :=
      { State.initial 0 with
        store := ⟨[("n", .scalar 3.0), ("v", .realVector [0.5, 2.25])]⟩ }
    Prints "fprintf('%3d%%: %-6.2f|\\n', n, v(end))" ∧ Prints "fprintf('%c', 55296)" ∧
    Prints "fprintf('%d', y)" ∧
    Writes st.store "fprintf('%3d%%: %-6.2f|\\n', n, v(end))" (symbols "  3%: 2.25  |\n") ∧
    run .standard (fun _ => 0.5) st "fprintf('%3d%%: %-6.2f|\\n', n, v(end))" =
      (st.withLines ["  3%: 2.25  |"], none) ∧
    Writes st.store "fprintf('%c', 55296)" [.surrogate 0] ∧
    run .standard (fun _ => 0.5) st "fprintf('%d', y)" = (st, none) := by
  intro st
  have hprints : Prints "fprintf('%3d%%: %-6.2f|\\n', n, v(end))" := ⟨by rfl, by rfl⟩
  have hsurrogate : Prints "fprintf('%c', 55296)" := ⟨by rfl, by rfl⟩
  have hunbound : Prints "fprintf('%d', y)" := ⟨by rfl, by rfl⟩
  have hwrites : Writes st.store "fprintf('%3d%%: %-6.2f|\\n', n, v(end))"
      (symbols "  3%: 2.25  |\n") :=
    exists_render_iff.mp ⟨"%3d%%: %-6.2f|\\n", ["n".toList, "v(end)".toList], by decide +kernel,
      by decide +kernel⟩
  refine ⟨hprints, hsurrogate, hunbound, hwrites, ?_, ?_, ?_⟩
  · obtain ⟨hresult, -⟩ := run_prints .standard (fun _ => 0.5) st hprints
    obtain ⟨lines, hlines, hfits, -⟩ := hresult.written _ hwrites
    obtain rfl : ["  3%: 2.25  |".toList] = lines := by
      rw [← outputLines_eq_iff.mpr hlines]
      decide +kernel
    exact hfits (by decide +kernel)
  · exact exists_render_iff.mp ⟨"%c", ["55296".toList], by decide +kernel, by decide +kernel⟩
  · obtain ⟨hresult, -⟩ := run_prints .standard (fun _ => 0.5) st hunbound
    exact hresult.skipped (lines?_eq_none_iff.mp (by decide +kernel))

end Statement

end SignalLab
