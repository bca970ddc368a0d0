import SignalLab.Proofs.Program.Draws
import SignalLab.Proofs.Program.Moment

/-!
# Sessions — programs that share a generator, and nothing else

The programs of a session run one after the other on one generator of random numbers.  The statements
of each run take draws one behind the other or leave them alone, which carries over from a statement
to the run and from the runs to the session.

  * `runFrom_takes`, `session_takes` — the random vectors that are evaluated take the draws one by
    one, from the first on.
  * `execute_outcome_advanced` — a run after some draws comes to what a run comes to on the generator
    advanced by them.
  * `session_eq_mapIdx` — under a clock that stands still, a session is its programs run alone.
-/

namespace SignalLab.Program

/-! ## Runs -/

/-- The random vectors that statements evaluate, `steps` having been looked at before: those of the
statements that are dispatched, a last one that fails among them. -/
def randomVectorsFrom (s : Settings) (clock draw : Nat → Float) (steps : Nat) (state : State) :
    List (Nat × Text) → List (List Float)
  | [] => []
  | (_, text) :: rest =>
    let steps := steps + 1
    if s.maxTime < clock steps - clock 0 then []
    else if s.maxSteps < steps then []
    else
      (Statement.ofText text).randomVectors s draw state ++
        match Statement.run s draw state text with
        | (state, none) => randomVectorsFrom s clock draw steps state rest
        | (_, some _) => []

/-- The random vectors that a run of a program evaluates after the given number of draws. -/
def randomVectors (s : Settings) (clock draw : Nat → Float) (draws : Nat) (code : Text) :
    List (List Float) :=
  randomVectorsFrom s clock draw 0 (.initial draws) (statements code)

/-- A run takes the draws of the random vectors it evaluates, and no others. -/
theorem runFrom_takes (s : Settings) (clock draw : Nat → Float) (steps : Nat) (st : State)
    (stmts : List (Nat × Text)) :
    Takes draw (randomVectorsFrom s clock draw steps st stmts) st.draws
      (runFrom s clock draw steps st stmts).state.draws := by
  induction stmts generalizing steps st with
  | nil => exact Takes.nil draw st.draws
  | cons stmt rest ih =>
      obtain ⟨line, text⟩ := stmt
      rw [randomVectorsFrom, runFrom]
      -- a statement that is not dispatched evaluates nothing, and ends the run
      by_cases hlate : s.maxTime < clock (steps + 1) - clock 0
      · rw [if_pos hlate, if_pos hlate]
        exact Takes.nil draw st.draws
      by_cases hmany : s.maxSteps < (steps + 1 : Nat)
      · rw [if_neg hlate, if_neg hlate, if_pos hmany, if_pos hmany]
        exact Takes.nil draw st.draws
      rw [if_neg hlate, if_neg hlate, if_neg hmany, if_neg hmany]
      have hstmt := Statement.exec_takes s draw st (Statement.ofText text)
      rw [← Statement.run] at hstmt
      rcases hrun : Statement.run s draw st text with ⟨st', _ | failure⟩
      · rw [hrun] at hstmt
        exact hstmt.append (ih (steps + 1) st')
      · rw [hrun] at hstmt
        exact hstmt.append (Takes.nil draw st'.draws)

theorem execute_takes (s : Settings) (clock draw : Nat → Float) (draws : Nat) (code : Text) :
    Takes draw (randomVectors s clock draw draws code) draws
      (execute s clock draw draws code).state.draws :=
  runFrom_takes s clock draw 0 (.initial draws) (statements code)

/-! ## Runs after draws -/

/-- The progress with more draws made before. -/
def Progress.advance (draws : Nat) (p : Progress) : Progress :=
  { p with state := p.state.advance draws }

/-- Statements run after draws as they run on the generator that they advanced. -/
theorem runFrom_advance (s : Settings) (clock draw : Nat → Float) (draws steps : Nat) (st : State)
    (stmts : List (Nat × Text)) :
    runFrom s clock draw steps (st.advance draws) stmts =
      (runFrom s clock (advanced draw draws) steps st stmts).advance draws := by
  induction stmts generalizing steps st with
  | nil => rfl
  | cons stmt rest ih =>
      obtain ⟨line, text⟩ := stmt
      rw [runFrom, runFrom]
      by_cases hlate : s.maxTime < clock (steps + 1) - clock 0
      · rw [if_pos hlate, if_pos hlate]
        rfl
      by_cases hmany : s.maxSteps < (steps + 1 : Nat)
      · rw [if_neg hlate, if_neg hlate, if_pos hmany, if_pos hmany]
        rfl
      rw [if_neg hlate, if_neg hlate, if_neg hmany, if_neg hmany, Statement.run,
        Statement.exec_advance, ← Statement.run]
      rcases Statement.run s (advanced draw draws) st text with ⟨st', _ | failure⟩
      · exact ih (steps + 1) st'
      · rfl

/-- A run after draws comes to what a run comes to on the generator that they advanced. -/
theorem execute_outcome_advanced (s : Settings) (clock draw : Nat → Float) (draws : Nat)
    (code : Text) :
    (execute s clock draw draws code).outcome clock = run s clock (advanced draw draws) code := by
  have hexecute : execute s clock draw draws code =
      (execute s clock (advanced draw draws) 0 code).advance draws :=
    runFrom_advance s clock draw draws 0 (.initial 0) (statements code)
  rw [hexecute]
  rfl

/-! ## Sessions -/

/-- The random vectors that the programs of a session evaluate, in order. -/
def sessionVectors (clock draw : Nat → Float) (readings draws : Nat) :
    List (Settings × Text) → List (List Float)
  | [] => []
  | (s, code) :: rest =>
    let clock' := clockFrom clock readings
    let p := execute s clock' draw draws code
    randomVectors s clock' draw draws code ++
      sessionVectors clock draw (readings + p.readings) p.state.draws rest

/-- The number of draws made when the programs of a session have run. -/
def drawsAfter (clock draw : Nat → Float) (readings draws : Nat) : List (Settings × Text) → Nat
  | [] => draws
  | (s, code) :: rest =>
    let p := execute s (clockFrom clock readings) draw draws code
    drawsAfter clock draw (readings + p.readings) p.state.draws rest

/-- A session takes the draws of the random vectors it evaluates, and no others. -/
theorem session_takes (clock draw : Nat → Float) (readings draws : Nat)
    (programs : List (Settings × Text)) :
    Takes draw (sessionVectors clock draw readings draws programs) draws
      (drawsAfter clock draw readings draws programs) := by
  induction programs generalizing readings draws with
  | nil => exact Takes.nil draw draws
  | cons program rest ih =>
      obtain ⟨s, code⟩ := program
      have hfirst := execute_takes s (clockFrom clock readings) draw draws code
      rw [sessionVectors, drawsAfter]
      exact hfirst.append (ih _ _)

/-- Under a clock that stands still each program of a session comes to what it comes to alone, on the
generator advanced by the draws made before. -/
theorem session_eq_mapIdx (s : Settings) (time : Float) (draw : Nat → Float)
    (readings draws : Nat) (codes : List Text) :
    session (fun _ => time) draw readings draws (codes.map (s, ·)) =
      codes.mapIdx fun i code =>
        run s (fun _ => time) (advanced draw
          (drawsAfter (fun _ => time) draw readings draws ((codes.take i).map (s, ·)))) code := by
  induction codes generalizing readings draws with
  | nil => rfl
  | cons code rest ih =>
      rw [List.map_cons, List.mapIdx_cons, session]
      show (execute s (fun _ => time) draw draws code).outcome (fun _ => time) ::
        session (fun _ => time) draw _ _ (rest.map (s, ·)) = _
      -- the draws before a later program are those of the first one and of those between
      rw [execute_outcome_advanced, ih]
      rfl

/-- Programs that run one after the other under the same settings and a clock that stands still share
their generator only: each comes to what it comes to alone, on the generator advanced by the draws
made before, and the random numbers of all of them are the draws from the first on, each stretched from
`[0, 1)` to `[-1, 1)`, none skipped and none used twice.  An assignment that fails takes none. -/
theorem session_isolated (s : Settings) (time : Float) (draw : Nat → Float) (codes : List Text) :
    let clock : Nat → Float := fun _ => time
    session clock draw 0 0 (codes.map (s, ·)) =
      (codes.mapIdx fun i code =>
        run s clock (advanced draw (drawsAfter clock draw 0 0 ((codes.take i).map (s, ·)))) code) ∧
    (sessionVectors clock draw 0 0 (codes.map (s, ·))).flatten =
      ((List.range (drawsAfter clock draw 0 0 (codes.map (s, ·)))).map fun i =>
        draw i * 2.0 - 1.0) ∧
    ∀ (st : State) (name expr : Text) (failure : Failure),
      (Statement.exec s draw st (.assign name expr)).2 = some failure →
        (Statement.exec s draw st (.assign name expr)).1.draws = st.draws := by
  intro clock
  refine ⟨?_, ?_, ?_⟩
  · exact session_eq_mapIdx s time draw 0 0 codes
  · have htakes := session_takes clock draw 0 0 (codes.map (s, ·))
    rw [htakes.count, Nat.zero_add, ← Shape.randomSamples_zero]
    exact htakes.samples
  · intro st name expr failure h
    rw [Statement.exec_assign_of_failure h]

/-- Of three programs the first fails at the limit on vectors, after two draws; the third one begins
with the sixth draw. -/
theorem session_isolated_of_breach :
    let s : Settings := { Settings.standard with maxVector := 3 }
    let clock : Nat → Float := fun _ => 0.0
    let codes : List Text := ["n = 2\nx = rand(1, n)\ny = rand(n, n)", "z = rand(3)", "w = randn()"]
    let programs := codes.map (s, ·)
    let first : State := State.initial 2
    (session clock Double.ofNat 0 0 programs).map Outcome.success = [false, true, true] ∧
    drawsAfter clock Double.ofNat 0 0 programs = 6 ∧
    (sessionVectors clock Double.ofNat 0 0 programs).flatten =
      [0.0, 1.0, 2.0, 3.0, 4.0, 5.0].map (fun u => u * 2.0 - 1.0) ∧
    (session clock Double.ofNat 0 0 programs)[2]? =
      some (run s clock (advanced Double.ofNat 5) "w = randn()") ∧
    (Statement.exec s Double.ofNat first (.assign "y" "rand(2, 2)")).2 =
      some (.breach (.randomLength 3)) ∧
    (Statement.exec s Double.ofNat first (.assign "y" "rand(2, 2)")).1.draws = 2 := by
  intro s clock codes programs first
  obtain ⟨hsession, hvectors, hfailure⟩ := session_isolated s 0.0 Double.ofNat codes
  have hsuccess : (session clock Double.ofNat 0 0 programs).map Outcome.success =
      [false, true, true] := by
    decide +kernel
  have hdraws : drawsAfter clock Double.ofNat 0 0 programs = 6 := by decide +kernel
  have hbefore : drawsAfter clock Double.ofNat 0 0 ((codes.take 2).map (s, ·)) = 5 := by
    decide +kernel
  have hbreach : (Statement.exec s Double.ofNat first (.assign "y" "rand(2, 2)")).2 =
      some (.breach (.randomLength 3)) := by
    decide +kernel
  refine ⟨hsuccess, hdraws, ?_, ?_, hbreach, hfailure first _ _ _ hbreach⟩
  · refine hvectors.trans ?_
    rw [hdraws]
    decide +kernel
  · have hthird := congrArg (fun outcomes => outcomes[2]?) hsession
    rw [← hbefore]
    exact hthird

end SignalLab.Program
