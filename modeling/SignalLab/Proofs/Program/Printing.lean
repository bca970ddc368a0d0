import SignalLab.Proofs.Program.Moment
import SignalLab.Proofs.Program.Transcript
import SignalLab.Proofs.Text.Calls
import SignalLab.Proofs.Text.LineBreaks
import SignalLab.Proofs.Text.LineStarts
import SignalLab.Proofs.Text.Quoting
import SignalLab.Proofs.Text.Trimming

/-!
# Printing — every text can be printed

A text is printed by a program of one statement, either as the format of a print call
(`formatProgram`) or as the argument of one (`argumentProgram`).  On its way from the program to the
transcript it passes the lines of the program, the statements of the line, the literals and the
arguments of the call, the escapes and the directives of the format.  All of them give special
meaning to some characters; written as here, a text comes out of each of them as the next one needs
it, and in the end unchanged (`Program.run_print_text`).
-/

namespace SignalLab

open Text

namespace Print

/-! ## Programs that print a text -/

/-- A character in the format that prints it: quotes, backslashes and percent signs are written
twice, a line feed as its escape. -/
def formatChar (c : Char) : Text :=
  if c = '\n' then ['\\', 'n']
  else if c = '\'' ∨ c = '\\' ∨ c = '%' then [c, c]
  else [c]

/-- The format that prints a text. -/
def formatText (s : Text) : Text :=
  s.flatMap formatChar

/-- The program that prints a text by a format and no arguments. -/
def formatProgram (s : Text) : Text :=
  "fprintf('".toList ++ formatText s ++ "\\n')".toList

/-- The program that prints a text as an argument. -/
def argumentProgram (s : Text) : Text :=
  "fprintf('%s\\n', '".toList ++ doubled '\'' s ++ "')".toList

/-! ## Calls -/

/-- A print call with the given text between its parentheses. -/
def callText (body : Text) : Text :=
  "fprintf(".toList ++ (body ++ [')'])

/-- The format that prints a text passes three readers: the one of literals, the one of escapes, and
the one of directives. -/
theorem formatText_eq (s : Text) : formatText s = doubled '\'' (escapeText (doubled '%' s)) := by
  induction s with
  | nil => rfl
  | cons c s ih =>
      have hcons : formatText (c :: s) = formatChar c ++ formatText s := List.flatMap_cons
      rw [hcons, ih]
      by_cases hpercent : c = '%'
      · subst hpercent
        rfl
      have hescape : escapeText (c :: doubled '%' s) = escapeChar c ++ escapeText (doubled '%' s) :=
        List.flatMap_cons
      rw [doubled_cons_of_ne hpercent, hescape]
      by_cases hline : c = '\n'
      · subst hline
        rfl
      by_cases hslash : c = '\\'
      · subst hslash
        rfl
      rw [escapeChar, if_neg hline, if_neg hslash, List.singleton_append]
      by_cases hquote : c = '\''
      · subst hquote
        rfl
      · rw [doubled_cons_of_ne hquote, formatChar, if_neg hline, if_neg (by simp [*])]
        rfl

theorem formatProgram_eq (s : Text) :
    formatProgram s = callText (quoteText '\'' (escapeText (doubled '%' (s ++ ['\n'])))) := by
  have hformat : formatText (s ++ ['\n']) = formatText s ++ ['\\', 'n'] := by
    simp [formatText, formatChar]
  unfold formatProgram callText quoteText
  simp [← formatText_eq, hformat]

theorem argumentProgram_eq (s : Text) :
    argumentProgram s =
      callText (quoteText '\'' (escapeText ['%', 's', '\n']) ++
        ',' :: ' ' :: quoteText '\'' s) := by
  have hformat : doubled '\'' (escapeText ['%', 's', '\n']) = ['%', 's', '\\', 'n'] := by rfl
  unfold argumentProgram callText quoteText
  simp [hformat]

/-- What a print call is made of: the text between its parentheses. -/
theorem callBody?_callText (body : Text) : callBody? (callText body) = some body := by
  have hcall : Text.afterCall? "fprintf" (callText body) = some (body ++ [')']) :=
    afterCall?_eq_some_iff.mpr ⟨[], List.forall_mem_nil _, rfl⟩
  rw [callBody?, hcall]
  show (if (body ++ [')']).getLast? = some ')' then some (body ++ [')']).dropLast else _) = _
  rw [if_pos List.getLast?_concat, List.dropLast_concat]

theorem takeLiteral?_quoted (s : Text) : takeLiteral? (quoteText '\'' s) = some (s, []) := by
  have hliteral : takeLiteral? (quoteText '\'' s ++ []) = some (s, []) :=
    takeLiteral?_quoteText (by decide) (by simp) s
  rwa [List.append_nil] at hliteral

/-- A call with a quoted format and nothing else has no arguments. -/
theorem call?_format (f : Text) : call? (callText (quoteText '\'' f)) = some (f, []) := by
  rw [call?, callBody?_callText]
  show (takeLiteral? (quoteText '\'' f)).bind _ = _
  rw [takeLiteral?_quoted]
  rfl

/-- A quoted argument is one part, whatever stands in it. -/
theorem splitTopLevel_quoteText (s : Text) :
    splitTopLevel ',' (' ' :: quoteText '\'' s) = [' ' :: quoteText '\'' s] := by
  have hparts : partsFrom ',' (some '\'') 0 (doubled '\'' s ++ ['\'']) = [doubled '\'' s ++ ['\'']] :=
    partsFrom_doubled (by decide) rfl s
  rw [splitTopLevel, quoteText]
  show addToFirst ' ' (addToFirst '\'' (partsFrom ',' (some '\'') 0 (doubled '\'' s ++ ['\'']))) = _
  rw [hparts]
  rfl

theorem trim_quoteText (s : Text) : trim (quoteText '\'' s) = quoteText '\'' s := by
  refine trim_eq_self (fun c hc => ?_) fun c hc => ?_
  · obtain rfl : '\'' = c := Option.some.inj hc
    decide
  · rw [quoteText, ← List.cons_append, List.getLast?_concat] at hc
    obtain rfl : '\'' = c := Option.some.inj hc
    decide

/-- A call with a quoted format and a quoted argument has just this argument. -/
theorem call?_argument (f s : Text) :
    call? (callText (quoteText '\'' f ++ ',' :: ' ' :: quoteText '\'' s)) =
      some (f, [quoteText '\'' s]) := by
  have hliteral : takeLiteral? (quoteText '\'' f ++ ',' :: ' ' :: quoteText '\'' s) =
      some (f, ',' :: ' ' :: quoteText '\'' s) :=
    takeLiteral?_quoteText (by decide) (by simp) f
  have htrim : trim (',' :: ' ' :: quoteText '\'' s) = ',' :: ' ' :: quoteText '\'' s := by
    refine trim_eq_self (fun c hc => ?_) fun c hc => ?_
    · obtain rfl : ',' = c := Option.some.inj hc
      decide
    · rw [quoteText, ← List.cons_append, ← List.cons_append, ← List.cons_append,
        List.getLast?_concat] at hc
      obtain rfl : '\'' = c := Option.some.inj hc
      decide
  have hblank : trim (' ' :: quoteText '\'' s) = quoteText '\'' s := trim_quoteText s
  have harguments : argumentTexts? (',' :: ' ' :: quoteText '\'' s) =
      some [quoteText '\'' s] := by
    rw [argumentTexts?, htrim]
    show some ((splitTopLevel ',' (' ' :: quoteText '\'' s)).map trim) = _
    rw [splitTopLevel_quoteText, List.map_singleton, hblank]
  rw [call?, callBody?_callText]
  show (takeLiteral? _).bind _ = _
  rw [hliteral]
  show (argumentTexts? _).bind _ = _
  rw [harguments]
  rfl

/-! ## What is printed -/

theorem outputLines_append_newline (s : Text) : outputLines (s ++ ['\n']) = splitAt '\n' s := by
  rw [outputLines, if_pos List.getLast?_concat, List.dropLast_concat]

/-- A text written as a format is printed in its lines. -/
theorem lines?_formatProgram (store : Store) (s : Text) :
    lines? store (formatProgram s) = some (splitAt '\n' s) := by
  have hwrite : write (unescape (escapeText (doubled '%' (s ++ ['\n'])))) [] =
      .ok (symbols (s ++ ['\n'])) := by
    have hescape := unescape_escapeText (doubled '%' (s ++ ['\n'])) []
    have hpercent := substitutePair_doubled '%' (s ++ ['\n']) []
    rw [List.append_nil] at hescape hpercent
    rw [hescape, write]
    show Except.ok (symbols (substitutePair '%' '%' '%' (doubled '%' (s ++ ['\n']) ++ []))) = _
    rw [List.append_nil, hpercent]
    exact congrArg (fun w => Except.ok (symbols w)) (List.append_nil _)
  rw [formatProgram_eq, lines?_of_call (call?_format _), render, List.mapM_nil]
  show (write _ []).toOption.map _ = _
  rw [hwrite]
  show some (outputLines ((symbols (s ++ ['\n'])).map Symbol.shown)) = _
  rw [shown_symbols, outputLines_append_newline]

/-- A quoted argument is a text. -/
theorem argument_quoteText (store : Store) (s : Text) :
    argument store (quoteText '\'' s) = .ok (.text s) := by
  have hvalue : literal? (quoteText '\'' s) = some s := by
    rw [literal?, takeLiteral?_quoted]
    rfl
  rw [argument, hvalue]

/-- The format of a text and a line feed writes its argument as it is. -/
theorem write_text (s : Text) : write ['%', 's', '\n'] [.text s] = .ok (symbols (s ++ ['\n'])) := by
  have hpieces : pieces ['%', 's', '\n'] =
      [.directive ⟨{}, .absent, .absent, some 's'⟩, .char '\n'] := by
    decide +kernel
  have hdirective : (Directive.mk {} .absent .absent (some 's')).write [.text s] =
      .ok (symbols s, []) := by
    show Except.ok ((textField none s).pad {} 0, []) = _
    simp [Field.pad, textField, symbols]
  rw [write]
  show writePieces _ _ = _
  rw [hpieces, writePieces, hdirective, symbols_append]
  rfl

/-- A text without line feeds is printed as one line. -/
theorem lines?_argumentProgram (store : Store) {s : Text} (hs : '\n' ∉ s) :
    lines? store (argumentProgram s) = some [s] := by
  have hescape : unescape (escapeText ['%', 's', '\n']) = ['%', 's', '\n'] := by rfl
  have hline : splitAt '\n' s = [s] := List.splitOn_eq_singleton hs
  rw [argumentProgram_eq, lines?_of_call (call?_argument _ _), render, List.mapM_cons,
    argument_quoteText]
  show (write (unescape (escapeText ['%', 's', '\n'])) [.text s]).toOption.map _ = _
  rw [hescape, write_text]
  show some (outputLines ((symbols (s ++ ['\n'])).map Symbol.shown)) = _
  rw [shown_symbols, outputLines_append_newline, hline]

end Print

/-! ## One statement -/

namespace Statement

open Print

theorem ofText_callText (body : Text) : ofText (callText body) = .print (callText body) := by
  have hassign : assignment? (callText body) = none := by rfl
  have hcall : isCall (callText body) = true := by rfl
  rw [ofText, hassign]
  exact if_pos hcall

theorem trim_callText (body : Text) : trim (callText body) = callText body := by
  refine trim_eq_self (fun c hc => ?_) fun c hc => ?_
  · obtain rfl : 'f' = c := Option.some.inj hc
    decide
  · have hlast : (callText body).getLast? = some ')' := by
      unfold callText
      rw [← List.append_assoc, List.getLast?_concat]
    rw [hlast] at hc
    obtain rfl : ')' = c := Option.some.inj hc
    decide

/-- A print call is one statement if what follows its opening parenthesis is in one piece. -/
theorem split_callText {body : Text}
    (hbody : piecesFrom none 1 (some '(') (body ++ [')']) = [body ++ [')']]) :
    split (callText body) = [callText body] := by
  have hpieces : pieces (callText body) = [callText body] := by
    show "fprintf(".toList.foldr addToFirst (piecesFrom none 1 (some '(') (body ++ [')'])) = _
    rw [hbody]
    rfl
  have hblank : isBlankText (callText body) = false := by rfl
  rw [split, hpieces, List.filterMap_cons, hblank, trim_callText]
  rfl

theorem split_format (f : Text) :
    split (callText (quoteText '\'' f)) = [callText (quoteText '\'' f)] :=
  split_callText (piecesFrom_quoteText (by decide) (by decide) (by decide) rfl f)

theorem split_argument (f s : Text) :
    split (callText (quoteText '\'' f ++ ',' :: ' ' :: quoteText '\'' s)) =
      [callText (quoteText '\'' f ++ ',' :: ' ' :: quoteText '\'' s)] := by
  have hargument : piecesFrom none 1 (some ' ') (quoteText '\'' s ++ [')']) =
      [quoteText '\'' s ++ [')']] :=
    piecesFrom_quoteText (by decide) (by decide) (by decide) rfl s
  refine split_callText ?_
  rw [List.append_assoc]
  refine piecesFrom_quoteText (by decide) (by decide) (by simp) ?_ f
  show addToFirst ','
    (addToFirst ' ' (piecesFrom none 1 (some ' ') (quoteText '\'' s ++ [')']))) = _
  rw [hargument]
  rfl

/-- The lines of a text are no longer than the text. -/
theorem transcriptSize_splitAt_le (sep : Char) (s : Text) :
    transcriptSize (splitAt sep s) ≤ s.length := by
  induction s with
  | nil => exact Nat.le_refl 0
  | cons c s ih =>
      by_cases hc : c = sep
      · rw [hc, splitAt_cons_self, transcriptSize, List.length_nil, List.length_cons]
        omega
      · obtain ⟨line, rest, hs⟩ := List.exists_cons_of_ne_nil (splitAt_ne_nil sep s)
        rw [hs] at ih
        rw [splitAt_cons_of_ne hc hs, transcriptSize, List.length_cons, List.length_cons]
        rw [transcriptSize] at ih
        omega

end Statement

/-! ## Whole programs -/

namespace Print

theorem unbroken_doubled {q : Char} {s : Text} (hs : Unbroken s) : Unbroken (doubled q s) :=
  fun c hc => hs c (mem_of_mem_doubled hc)

theorem unbroken_quoteText {q : Char} (hq : isLineBreak q = false) {s : Text} (hs : Unbroken s) :
    Unbroken (quoteText q s) := by
  intro c hc
  rcases List.mem_cons.mp hc with rfl | hc
  · exact hq
  · rcases List.mem_append.mp hc with hc | hc
    · exact unbroken_doubled hs c hc
    · rwa [List.mem_singleton.mp hc]

/-- Escaping leaves no line breaks if there are none but line feeds. -/
theorem unbroken_escapeText {s : Text} (hs : ∀ c ∈ s, isLineBreak c = true → c = '\n') :
    Unbroken (escapeText s) := by
  intro c hc
  obtain ⟨d, hd, hcd⟩ := List.mem_flatMap.mp hc
  rw [escapeChar] at hcd
  split at hcd
  · rcases List.mem_pair.mp hcd with rfl | rfl <;> decide
  · rename_i hline
    split at hcd
    · rcases List.mem_pair.mp hcd with rfl | rfl <;> decide
    · rw [List.mem_singleton.mp hcd]
      exact Bool.eq_false_iff.mpr fun hbreak => hline (hs d hd hbreak)

theorem unbroken_callText {body : Text} (hbody : Unbroken body) : Unbroken (callText body) := by
  have hopening : Unbroken "fprintf(".toList := unbroken_of_all (by decide)
  intro c hc
  rcases List.mem_append.mp hc with hc | hc
  · exact hopening c hc
  · rcases List.mem_append.mp hc with hc | hc
    · exact hbody c hc
    · rw [List.mem_singleton.mp hc]
      decide

end Print

namespace Program

open Print Statement

/-- A print call on a line of its own is the only statement of its program. -/
theorem statements_callText {body : Text} (hbody : Unbroken body)
    (hsplit : split (callText body) = [callText body]) :
    statements (callText body) = [(1, callText body)] := by
  have hlines : Text.lines (callText body) = [callText body] := by
    rw [lines_of_unbroken (unbroken_callText hbody)]
    rfl
  have hstatements : lineStatements (callText body) = [callText body] := by
    have hhead : (callText body).head? = some 'f' := rfl
    rw [lineStatements, hhead, if_neg (by decide), hsplit]
  rw [statements, numberedLines, hlines, List.map_singleton, trim_callText]
  show ((lineStatements (callText body)).map fun statement => (1, statement)) ++ [] = _
  rw [hstatements]
  rfl

variable {s : Settings} {clock draw : Nat → Float}

/-- A program that is one print call prints the lines of the call if they are within the limit. -/
theorem run_callText (hadm : Admits s clock 0) {body : Text} {printed : List Text}
    (hbody : Unbroken body) (hsplit : split (callText body) = [callText body])
    (hprinted : ∀ store, lines? store (callText body) = some printed)
    (hfits : (transcriptSize printed : Int) ≤ s.maxOutput) :
    (run s clock draw (callText body)).success = true ∧
      (run s clock draw (callText body)).transcript = printed.map .text := by
  have hrun : Statement.run s draw (.initial 0) (callText body) =
      ((State.initial 0).withLines printed, none) := by
    rw [Statement.run, ofText_callText, exec_print, hprinted, Option.getD_some]
    exact emitAll_of_fits hfits
  have hexecute : execute s clock draw 0 (callText body) =
      ⟨(State.initial 0).withLines printed, 1, none⟩ := by
    rw [execute, statements_callText hbody hsplit, runFrom_of_success hadm hrun]
    rfl
  rw [run, hexecute]
  exact ⟨rfl, rfl⟩

/-- A text without other line breaks than line feeds, and within the limit on the output, is printed
in its lines by the program that has it in its format, and if it is a single line also by the
program that has it as an argument. -/
theorem run_print_text (s : Settings) (clock draw : Nat → Float) (text : Text)
    (hlines : ∀ c ∈ text, isLineBreak c = true → c = '\n')
    (hsize : (text.length : Int) ≤ s.maxOutput) (hadm : Admits s clock 0) :
    ((run s clock draw (formatProgram text)).success = true ∧
      (run s clock draw (formatProgram text)).transcript = (splitAt '\n' text).map .text) ∧
    ('\n' ∉ text →
      (run s clock draw (argumentProgram text)).success = true ∧
      (run s clock draw (argumentProgram text)).transcript = [.text text]) := by
  have hfits : (transcriptSize (splitAt '\n' text) : Int) ≤ s.maxOutput := by
    have hle := transcriptSize_splitAt_le '\n' text
    omega
  constructor
  · have hbreaks : ∀ c ∈ doubled '%' (text ++ ['\n']), isLineBreak c = true → c = '\n' := by
      intro c hc hbreak
      rcases List.mem_append.mp (mem_of_mem_doubled hc) with hc | hc
      · exact hlines c hc hbreak
      · exact List.mem_singleton.mp hc
    have hbody := unbroken_quoteText (q := '\'') (by decide) (unbroken_escapeText hbreaks)
    have hprinted : ∀ store, lines? store (formatProgram text) = some (splitAt '\n' text) :=
      fun store => lines?_formatProgram store text
    rw [formatProgram_eq] at hprinted ⊢
    exact run_callText hadm hbody (split_format _) hprinted hfits
  · intro hline
    have htext : Unbroken text :=
      fun c hc => Bool.eq_false_iff.mpr fun hbreak => hline (hlines c hc hbreak ▸ hc)
    -- neither the format nor the text ends the line that the statement stands in
    have hbody : Unbroken (quoteText '\'' (escapeText ['%', 's', '\n']) ++
        ',' :: ' ' :: quoteText '\'' text) := by
      have hfront : Unbroken (quoteText '\'' (escapeText ['%', 's', '\n']) ++ [',', ' ']) :=
        unbroken_of_all (by decide)
      intro c hc
      rw [List.append_cons, List.append_cons, List.append_assoc _ [','] [' ']] at hc
      rcases List.mem_append.mp hc with hc | hc
      · exact hfront c hc
      · exact unbroken_quoteText (by decide) htext c hc
    have hprinted : ∀ store, lines? store (argumentProgram text) = some [text] :=
      fun store => lines?_argumentProgram store hline
    rw [splitAt, List.splitOn_eq_singleton hline] at hfits
    rw [argumentProgram_eq] at hprinted ⊢
    exact run_callText hadm hbody (split_argument _ _) hprinted hfits

/-- Texts with quotes, separators, comments, directives and escapes in them are printed at the very
limit on the output. -/
theorem run_print_text_of_marks :
    let s (limit : Int) : Settings := { Settings.standard with maxOutput := limit }
    let outcome (limit : Int) : Text → Outcome := run (s limit) (fun _ => 0.0) (fun _ => 0.0)
    let lines : Text := "50%d; it's\n\\n\"(,%%\n"
    let line : Text := "'a', \"%s\" % b); c\\"
    ((outcome lines.length (formatProgram lines)).success = true ∧
      (outcome lines.length (formatProgram lines)).transcript = (splitAt '\n' lines).map .text) ∧
    (outcome line.length (argumentProgram line)).success = true ∧
    (outcome line.length (argumentProgram line)).transcript = [.text line] := by
  intro s outcome lines line
  have hadm : ∀ limit, Admits (s limit) (fun _ => 0.0) 0 := by
    intro limit
    have htime : ¬ Settings.standard.maxTime < (0.0 : Float) - 0.0 := by decide +kernel
    have hsteps : ¬ Settings.standard.maxSteps < (1 : Nat) := by decide
    exact ⟨htime, hsteps⟩
  have hbreaks : ∀ text : Text, text.all (fun c => !isLineBreak c || c == '\n') = true →
      ∀ c ∈ text, isLineBreak c = true → c = '\n' := by
    intro text hall c hc hbreak
    have hor := List.all_eq_true.mp hall c hc
    rwa [hbreak, Bool.not_true, Bool.false_or, beq_iff_eq] at hor
  have hlines := hbreaks lines (by decide +kernel)
  have hline := hbreaks line (by decide +kernel)
  refine ⟨?_, ?_⟩
  · exact (run_print_text (s lines.length) _ _ lines hlines (Int.le_refl _) (hadm _)).1
  · exact (run_print_text (s line.length) _ _ line hline (Int.le_refl _) (hadm _)).2
      (by decide +kernel)

end Program

end SignalLab
