import SignalLab.Proofs.Program.Frame
import SignalLab.Proofs.Program.Moment
import SignalLab.Proofs.Text.LineBreaks

/-!
# Concatenation — runs of a program and of its beginnings

Statements are numbered by lines, so the statements of the first lines of a program are the first of
its statements, whatever follows.  A run on statements in two parts is the run on the first part,
which goes on with the second one unless it was stopped (`runFrom_append`).  Text in further lines
therefore changes nothing of a run that is stopped, and the line of a stop is exact
(`execute_firstLines_of_stop`): the lines before it are not stopped, and the lines up to it are
stopped in the same way.
-/

namespace SignalLab.Program

/-! ## Statements of consecutive lines -/

/-- The statements of lines that are numbered from the given number on. -/
def statementsFrom (number : Nat) (ls : List Text) : List (Nat × Text) :=
  ((ls.map Text.trim).zipIdx number).flatMap fun (line, number) =>
    (lineStatements line).map fun statement => (number, statement)

theorem statements_eq (code : Text) : statements code = statementsFrom 1 (Text.lines code) :=
  rfl

theorem statementsFrom_append (number : Nat) (xs ys : List Text) :
    statementsFrom number (xs ++ ys) =
      statementsFrom number xs ++ statementsFrom (number + xs.length) ys := by
  rw [statementsFrom, List.map_append, List.zipIdx_append, List.flatMap_append, List.length_map]
  rfl

theorem statementsFrom_empty (number : Nat) : statementsFrom number [[]] = [] :=
  rfl

theorem line_of_mem_statementsFrom {number line : Nat} {text : Text} {ls : List Text}
    (h : (line, text) ∈ statementsFrom number ls) : number ≤ line ∧ line < number + ls.length := by
  obtain ⟨⟨source, line'⟩, hmem, h⟩ := List.mem_flatMap.mp h
  obtain ⟨text', -, heq⟩ := List.mem_map.mp h
  cases heq
  obtain ⟨hle, hlt, -⟩ := List.mem_zipIdx hmem
  rw [List.length_map] at hlt
  exact ⟨hle, hlt⟩

/-- More text in further lines has further statements. -/
theorem statements_prefix (p q : Text) : statements p <+: statements (p ++ '\n' :: q) := by
  obtain ⟨rest, hrest⟩ := Text.lines_prefix p q
  rw [statements_eq, statements_eq, ← hrest, statementsFrom_append]
  exact List.prefix_append _ _

/-- The statements of a program made of lines. -/
theorem statements_join {ls : List Text} (h : ∀ l ∈ ls, Text.Unbroken l) :
    statements (Text.join ['\n'] ls) = statementsFrom 1 ls := by
  rw [statements_eq]
  rcases Text.lines_join h with heq | heq
  · rw [← heq]
  · -- the empty line that is lost has no statements
    generalize Text.lines (Text.join ['\n'] ls) = read at heq ⊢
    rw [heq, statementsFrom_append, statementsFrom_empty, List.append_nil]

/-- The program made of the first lines of a program. -/
def firstLines (n : Nat) (code : Text) : Text :=
  Text.join ['\n'] ((Text.lines code).take n)

theorem statements_firstLines (n : Nat) (code : Text) :
    statements (firstLines n code) = statementsFrom 1 ((Text.lines code).take n) :=
  statements_join fun _ hl => Text.unbroken_of_mem_lines (List.mem_of_mem_take hl)

/-- The statements of the first lines, and those of the later ones, which have larger numbers. -/
theorem exists_statements_eq (n : Nat) (code : Text) :
    ∃ later, statements code = statements (firstLines n code) ++ later ∧
      (∀ line text, (line, text) ∈ statements (firstLines n code) → line ≤ n) ∧
      ∀ line text, (line, text) ∈ later → n < line := by
  refine ⟨statementsFrom (1 + ((Text.lines code).take n).length) ((Text.lines code).drop n),
    ?_, ?_, ?_⟩
  · rw [statements_firstLines, ← statementsFrom_append, List.take_append_drop]
    rfl
  · intro line text h
    rw [statements_firstLines] at h
    have hline := line_of_mem_statementsFrom h
    rw [List.length_take] at hline
    omega
  · intro line text h
    have hline := line_of_mem_statementsFrom h
    rw [List.length_take, List.length_drop] at hline
    omega

/-! ## Runs on consecutive statements -/

section Runs

variable {s : Settings} {clock draw : Nat → Float}

theorem runFrom_append (s : Settings) (clock draw : Nat → Float) (steps : Nat) (st : State)
    (xs ys : List (Nat × Text)) :
    runFrom s clock draw steps st (xs ++ ys) =
      match runFrom s clock draw steps st xs with
      | ⟨st', steps', none⟩ => runFrom s clock draw steps' st' ys
      | ⟨st', steps', some stop⟩ => ⟨st', steps', some stop⟩ := by
  induction xs generalizing steps st with
  | nil => rfl
  | cons stmt xs ih =>
      obtain ⟨line, text⟩ := stmt
      rw [List.cons_append]
      by_cases hlate : s.maxTime < clock (steps + 1) - clock 0
      · rw [runFrom, if_pos hlate, runFrom, if_pos hlate]
      by_cases hmany : s.maxSteps < (steps + 1 : Nat)
      · rw [runFrom, if_neg hlate, if_pos hmany, runFrom, if_neg hlate, if_pos hmany]
      rcases hrun : Statement.run s draw st text with ⟨st', failure | failure⟩
      · rw [runFrom_of_success ⟨hlate, hmany⟩ hrun, runFrom_of_success ⟨hlate, hmany⟩ hrun]
        exact ih (steps + 1) st'
      · rw [runFrom_of_failure ⟨hlate, hmany⟩ hrun, runFrom_of_failure ⟨hlate, hmany⟩ hrun]

/-- The line in which a run stops is the line of one of its statements. -/
theorem exists_mem_of_stop {steps : Nat} {st : State} {stmts : List (Nat × Text)} {stop : Stop}
    (h : (runFrom s clock draw steps st stmts).stop = some stop) :
    ∃ text, (stop.line, text) ∈ stmts := by
  obtain ⟨m, hreach, hends⟩ := exists_ends s clock draw ⟨steps, st, stmts⟩
  change Ends s clock draw m (runFrom s clock draw steps st stmts) at hends
  generalize runFrom s clock draw steps st stmts = p at h hends
  cases hends with
  | done => cases h
  | overdue late =>
      cases h
      exact ⟨_, hreach.rest_suffix.mem List.mem_cons_self⟩
  | exhausted many =>
      cases h
      exact ⟨_, hreach.rest_suffix.mem List.mem_cons_self⟩
  | failed admitted fails =>
      cases h
      exact ⟨_, hreach.rest_suffix.mem List.mem_cons_self⟩

/-- Of a program with further statements behind it, a run comes first to the end of that program. -/
theorem execute_append {p whole : Text} {later : List (Nat × Text)}
    (hwhole : statements whole = statements p ++ later) (s : Settings)
    (clock draw : Nat → Float) (draws : Nat) :
    execute s clock draw draws whole =
      match execute s clock draw draws p with
      | ⟨st, steps, none⟩ => runFrom s clock draw steps st later
      | ⟨st, steps, some stop⟩ => ⟨st, steps, some stop⟩ := by
  rw [execute, hwhole, runFrom_append]
  rfl

/-- A program that is stopped is stopped in the same way with further statements behind it. -/
theorem execute_eq_of_stop {draws : Nat} {p whole : Text} {later : List (Nat × Text)}
    (hwhole : statements whole = statements p ++ later) {stop : Stop}
    (h : (execute s clock draw draws p).stop = some stop) :
    execute s clock draw draws whole = execute s clock draw draws p := by
  rw [execute_append hwhole]
  generalize execute s clock draw draws p = ended at h
  obtain ⟨st, steps, stop?⟩ := ended
  cases h
  rfl

/-- A program that is not stopped leaves its state to the statements behind it. -/
theorem execute_eq_of_done {draws : Nat} {p whole : Text} {later : List (Nat × Text)}
    (hwhole : statements whole = statements p ++ later)
    (h : (execute s clock draw draws p).stop = none) :
    execute s clock draw draws whole =
      runFrom s clock draw (execute s clock draw draws p).steps
        (execute s clock draw draws p).state later := by
  rw [execute_append hwhole]
  generalize execute s clock draw draws p = ended at h
  obtain ⟨st, steps, stop?⟩ := ended
  cases h
  rfl

/-- The line of a stop is exact: the lines before it are not stopped, and the lines up to it are
stopped in the same way. -/
theorem execute_firstLines_of_stop {draws : Nat} {code : Text} {stop : Stop}
    (h : (execute s clock draw draws code).stop = some stop) :
    (execute s clock draw draws (firstLines (stop.line - 1) code)).stop = none ∧
      execute s clock draw draws (firstLines stop.line code) =
        execute s clock draw draws code := by
  constructor
  · obtain ⟨later, hwhole, hbefore, -⟩ := exists_statements_eq (stop.line - 1) code
    cases hstop : (execute s clock draw draws (firstLines (stop.line - 1) code)).stop with
    | none => rfl
    | some stop' =>
        -- the program would stop in one of these lines, which come before the line of its stop
        exfalso
        rw [execute_eq_of_stop hwhole hstop, hstop] at h
        cases h
        obtain ⟨text, hmem⟩ := exists_mem_of_stop hstop
        have hline := hbefore _ _ hmem
        have hpos : 1 ≤ stop.line := by
          rw [statements_firstLines] at hmem
          exact (line_of_mem_statementsFrom hmem).1
        omega
  · obtain ⟨later, hwhole, -, hafter⟩ := exists_statements_eq stop.line code
    cases hstop : (execute s clock draw draws (firstLines stop.line code)).stop with
    | some stop' => exact (execute_eq_of_stop hwhole hstop).symm
    | none =>
        -- the program would stop in a line behind these
        exfalso
        rw [execute_eq_of_done hwhole hstop] at h
        obtain ⟨text, hmem⟩ := exists_mem_of_stop h
        exact absurd (hafter _ _ hmem) (Nat.lt_irrefl _)

/-- Text in further lines behind a program leaves a failure as it is and begins with the transcript
of a success.  Where a limit is breached, the message names the line: the lines before it succeed,
and the lines up to it fail in the same way. -/
theorem run_append_newline (s : Settings) (clock draw : Nat → Float) (p q : Text) :
    ((run s clock draw p).success = false →
      run s clock draw (p ++ '\n' :: q) = run s clock draw p) ∧
    ((run s clock draw p).success = true →
      (run s clock draw p).transcript <+: (run s clock draw (p ++ '\n' :: q)).transcript) ∧
    ∀ n b, (execute s clock draw 0 p).stop = some ⟨n, .breach b⟩ →
      (run s clock draw p).errorMessage? =
        some (.text ("Line " ++ Text.ofNat n ++ ": " ++ b.message)) ∧
      (run s clock draw (firstLines (n - 1) p)).success = true ∧
      run s clock draw (firstLines n p) = run s clock draw p := by
  obtain ⟨later, hwhole⟩ := statements_prefix p q
  refine ⟨?_, ?_, ?_⟩
  · intro hfails
    cases hstop : (execute s clock draw 0 p).stop with
    | none =>
        rw [run, (Progress.success_outcome_iff clock _).mpr hstop] at hfails
        cases hfails
    | some stop => rw [run, run, execute_eq_of_stop hwhole.symm hstop]
  · intro hsucceeds
    have hstop := (Progress.success_outcome_iff clock _).mp hsucceeds
    rw [run, Progress.transcript_outcome_of_success clock hstop, run,
      execute_eq_of_done hwhole.symm hstop]
    -- what the lines behind print is added to the transcript of the program
    have hrest : State.Spares (later.map Prod.snd) (execute s clock draw 0 p).state
        (runFrom s clock draw (execute s clock draw 0 p).steps (execute s clock draw 0 p).state
          later).state := runFrom_frame _ _ later
    exact (hrest.transcript.map _).trans (Progress.transcript_prefix_outcome clock _)
  · intro n b hstop
    obtain ⟨hbefore, hupto⟩ := execute_firstLines_of_stop hstop
    refine ⟨?_, (Progress.success_outcome_iff clock _).mpr hbefore, ?_⟩
    · rw [run, Progress.outcome, hstop]
      rfl
    · rw [run, hupto, ← run]

/-- With one statement admitted, the first line succeeds and the second one fails. -/
theorem run_append_newline_of_step_limit :
    let s : Settings := { Settings.standard with maxSteps := 1 }
    let outcome : Text → Outcome := run s (fun _ => 0.0) (fun _ => 0.0)
    ((outcome "one").success = true ∧
      (outcome "one").transcript <+: (outcome "one\ntwo").transcript) ∧
    ((outcome "one\ntwo").success = false ∧ outcome "one\ntwo\nthree" = outcome "one\ntwo") ∧
    (outcome "one\ntwo").errorMessage? = some (.text "Line 2: Step limit exceeded") ∧
    (outcome (firstLines 1 "one\ntwo")).success = true ∧
    outcome (firstLines 2 "one\ntwo") = outcome "one\ntwo" := by
  intro s outcome
  have hone : (outcome "one").success = true := by decide +kernel
  have htwo : (outcome "one\ntwo").success = false := by decide +kernel
  have hstop : ((execute s (fun _ => 0.0) (fun _ => 0.0) 0 "one\ntwo").stop.map fun stop =>
      (stop.line, stop.failure)) = some (2, .breach .steps) := by decide +kernel
  obtain ⟨⟨line, failure⟩, hstop, heq⟩ := Option.map_eq_some_iff.mp hstop
  cases heq
  refine ⟨⟨hone, ?_⟩, ⟨htwo, ?_⟩, ?_⟩
  · exact (run_append_newline s (fun _ => 0.0) (fun _ => 0.0) "one" "two").2.1 hone
  · exact (run_append_newline s (fun _ => 0.0) (fun _ => 0.0) "one\ntwo" "three").1 htwo
  · exact (run_append_newline s (fun _ => 0.0) (fun _ => 0.0) "one\ntwo" "three").2.2 _ _ hstop

end Runs

end SignalLab.Program
