import SignalLab.Backend.Dispatch
import SignalLab.Proofs.Outcome.RoundTrip

/-!
# Replay — a dispatch is explained by its visits

A dispatch lists the targets it visited.  `Backends.replay` makes the same visits again, one after
the other on the same clock, and notes for each what it was answered, what it called outside and how
many readings of the clock it took.  Nothing else can have happened: the calls of a dispatch are those of
its visits, its time goes on by their readings, and its outcome is the answer of the last of them.

  * `Course` — the three courses of a dispatch: it simulates at once, it is answered by the backend
    that the options name, or it falls back to simulation because that backend failed.
  * `Backends.dispatch_conforms` — which targets are visited, with which program, and what comes of
    it.
-/

namespace SignalLab

/-! ## Visits and their answers -/

/-- A visit, what it was answered, its calls outside and the readings of the clock it took. -/
structure Exchange where
  visit : Visit
  result : Except Text Outcome
  calls : List Call
  readings : Nat

namespace Exchange

/-- Whether the visited target failed. -/
def failed (e : Exchange) : Bool :=
  !e.result.isOk

/-- The readings that exchanges took together. -/
def totalReadings (es : List Exchange) : Nat :=
  es.foldr (fun e total => e.readings + total) 0

/-- The exchange with a backend that replied. -/
def ofReply (v : Visit) (r : Reply) : Exchange :=
  ⟨v, r.result.mapError BackendFailure.message, r.calls, r.readings⟩

/-- The last exchange of a dispatch settles its outcome: it is the answer, without a dataset unless
plots are asked for, or else the failure of a simulation. -/
def Settles (e : Exchange) (plotOutput : Bool) (outcome : Outcome) : Prop :=
  match e.result with
  | .ok answer =>
    outcome.success = answer.success ∧ outcome.errorMessage? = answer.errorMessage? ∧
      outcome.transcript = answer.transcript ∧
      outcome.dataset = if plotOutput then answer.dataset else none
  | .error message =>
    let shown := if message.isEmpty then Verdict.unknownError else message
    e.visit.target = .simulation ∧ outcome.success = false ∧
      outcome.errorMessage? = some (.text shown) ∧
      outcome.transcript = [.text (">> Error: " ++ shown)] ∧ outcome.dataset = none

end Exchange

/-- The visit of the simulation. -/
def Visit.simulation (code : Text) : Visit :=
  ⟨.simulation, DenyList.sanitize code⟩

/-- The backend that options name, if any. -/
def Options.target? (o : Options) : Option Target :=
  if o.nativeRuntime then some .native else if o.dockerRuntime then some .docker else none

/-- The outcome that a dispatch makes of the result of its last visit. -/
def Outcome.ofResult (plotOutput : Bool) (elapsed : Float) : Except Text Outcome → Outcome
  | .ok answer => (answer.plotted plotOutput).timed elapsed
  | .error message => .ofSimulationFailure message elapsed

namespace Backends

variable (b : Backends) (clock : Nat → Float) (o : Options)

/-- The exchange that a visit leads to after the given number of readings of the clock. -/
def exchange (readings : Nat) (v : Visit) : Exchange :=
  let clock := Program.clockFrom clock readings
  match v.target with
  | .native => .ofReply v (b.native clock v.code o)
  | .docker => .ofReply v (b.docker clock v.code o)
  | .simulation => ⟨v, (b.simulator clock v.code).1, [], (b.simulator clock v.code).2⟩

/-- The exchanges of visits that are made one after the other. -/
def replay : Nat → List Visit → List Exchange
  | _, [] => []
  | readings, v :: rest =>
    let e := b.exchange clock o readings v
    e :: replay (readings + e.readings) rest

/-- The outcome that a last visit leads to. -/
def settle (readings : Nat) (v : Visit) : Outcome :=
  let e := b.exchange clock o readings v
  .ofResult o.plotOutput (Program.milliseconds (clock 0) (clock (readings + e.readings))) e.result

/-! ## The courses of a dispatch -/

/-- The courses that a dispatch can take. -/
inductive Course (code : Text) : Dispatched → Prop
  | simulated (unnamed : o.target? = none) :
      Course code ⟨b.settle clock o 1 (.simulation code), [.simulation code], []⟩
  | answered {target : Target} {e : Exchange} (named : o.target? = some target)
      (first : b.exchange clock o 1 ⟨target, code⟩ = e) (succeeds : e.failed = false) :
      Course code ⟨b.settle clock o 1 ⟨target, code⟩, [⟨target, code⟩], e.calls⟩
  | fellBack {target : Target} {e : Exchange} (named : o.target? = some target)
      (first : b.exchange clock o 1 ⟨target, code⟩ = e) (fails : e.failed = true) :
      Course code ⟨b.settle clock o (1 + e.readings) (.simulation code),
        [⟨target, code⟩, .simulation code], e.calls⟩

variable {b clock o}

theorem simulate_eq_settle (readings : Nat) (code : Text) :
    b.simulate clock readings code o = b.settle clock o readings (.simulation code) := by
  rw [simulate, settle, exchange, Visit.simulation]
  generalize b.simulator (Program.clockFrom clock readings) (DenyList.sanitize code) = answer
  obtain ⟨result | result, used⟩ := answer <;> rfl

theorem target?_eq_none (h : b.chosen? o = none) : o.target? = none := by
  rw [chosen?] at h
  rw [Options.target?]
  split at h
  · cases h
  · split at h
    · cases h
    · rename_i hnative hdocker
      rw [if_neg hnative, if_neg hdocker]

/-- The backend that is chosen is the one that the options name. -/
theorem target?_of_chosen (clock : Nat → Float) {target : Target}
    {backend : (Nat → Float) → Text → Options → Reply}
    (h : b.chosen? o = some (target, backend)) :
    o.target? = some target ∧ ∀ readings code, b.exchange clock o readings ⟨target, code⟩ =
      .ofReply ⟨target, code⟩ (backend (Program.clockFrom clock readings) code o) := by
  rw [chosen?] at h
  rw [Options.target?]
  split at h
  · rename_i hnative
    cases h
    exact ⟨if_pos hnative, fun _ _ => rfl⟩
  · rename_i hnative
    split at h
    · rename_i hdocker
      cases h
      exact ⟨by rw [if_neg hnative, if_pos hdocker], fun _ _ => rfl⟩
    · cases h

/-- Every dispatch takes one of the courses. -/
theorem course_dispatch (code : Text) : Course b clock o code (b.dispatch clock code o) := by
  rw [dispatch]
  cases hchosen : b.chosen? o with
  | none =>
      show Course b clock o code ⟨b.simulate clock 1 code o, [.simulation code], []⟩
      rw [simulate_eq_settle]
      exact .simulated (target?_eq_none hchosen)
  | some choice =>
      obtain ⟨target, backend⟩ := choice
      obtain ⟨hnamed, hexchange⟩ := target?_of_chosen clock hchosen
      have hfirst := hexchange 1 code
      dsimp only
      generalize backend (Program.clockFrom clock 1) code o = reply at hfirst ⊢
      obtain ⟨result, calls, readings⟩ := reply
      cases result with
      | ok answer =>
          have hcourse := Course.answered hnamed hfirst rfl
          rw [settle, hfirst] at hcourse
          exact hcourse
      | error failure =>
          have hcourse := Course.fellBack hnamed hfirst rfl
          rw [← simulate_eq_settle] at hcourse
          exact hcourse

end Backends

/-! ## What a dispatch promises -/

/-- The visits of a dispatch to one target. -/
def Dispatched.visitsTo (d : Dispatched) (target : Target) : List Visit :=
  d.visits.filter fun v => v.target = target

/-- What a dispatch of a program promises, whatever its backends do. -/
structure Dispatched.Conforms (b : Backends) (clock : Nat → Float) (code : Text) (o : Options)
    (d : Dispatched) : Prop where
  /-- The local process is visited once, with the program as it is, if it is turned on. -/
  native : d.visitsTo .native = if o.nativeRuntime then [⟨.native, code⟩] else []
  /-- The remote service is visited once, with the program as it is, if it alone is turned on. -/
  docker : d.visitsTo .docker =
    if o.dockerRuntime && !o.nativeRuntime then [⟨.docker, code⟩] else []
  /-- The simulation is visited once, with the sanitized program, if all that was visited otherwise
  failed. -/
  simulation : d.visitsTo .simulation =
    if (b.replay clock o 1 d.visits).all fun e => e.visit.target = .simulation || e.failed then
      [⟨.simulation, DenyList.sanitize code⟩]
    else []
  /-- The calls outside are those of the visits. -/
  calls : d.calls = (b.replay clock o 1 d.visits).flatMap Exchange.calls
  /-- The last visit settles the outcome. -/
  settled : ∃ e, (b.replay clock o 1 d.visits).getLast? = some e ∧
    e.Settles o.plotOutput d.outcome
  /-- The time is that from the first reading of the clock to the one behind all visits. -/
  elapsed : d.outcome.elapsed = some (Program.milliseconds (clock 0)
    (clock (1 + Exchange.totalReadings (b.replay clock o 1 d.visits))))
  /-- Success is the absence of an error message. -/
  success_iff : d.outcome.success = true ↔ d.outcome.errorMessage? = none

namespace Outcome

theorem elapsed_ofResult (plotOutput : Bool) (elapsed : Float) (r : Except Text Outcome) :
    (ofResult plotOutput elapsed r).elapsed = some elapsed := by
  cases r <;> rfl

theorem dataset_ofResult_false (elapsed : Float) (r : Except Text Outcome) :
    (ofResult false elapsed r).dataset = none := by
  cases r <;> rfl

end Outcome

/-- An exchange settles the outcome that is made of its result; only a simulation may do so by
failing. -/
theorem Exchange.settles_ofResult {e : Exchange}
    (h : e.failed = true → e.visit.target = .simulation) (plotOutput : Bool) (elapsed : Float) :
    e.Settles plotOutput (.ofResult plotOutput elapsed e.result) := by
  obtain ⟨v, result, calls, readings⟩ := e
  cases result with
  | ok answer =>
      cases plotOutput <;> exact ⟨rfl, rfl, rfl, rfl⟩
  | error message =>
      rw [Settles, Outcome.ofResult, Outcome.ofSimulationFailure]
      dsimp only
      generalize hshown : (if message.isEmpty then Verdict.unknownError else message) = shown
      have htruthy : (Payload.text shown).truthy = true := by
        rw [← hshown]
        split
        · decide
        · rename_i hempty
          simpa [Payload.truthy] using hempty
      refine ⟨h rfl, ?_, ?_, rfl, rfl⟩
      · rw [Outcome.failed, Outcome.success, Verdict.ofMessage, dif_pos htruthy]
        rfl
      · rw [Outcome.failed, Outcome.errorMessage?, Verdict.ofMessage, dif_pos htruthy]
        rfl

theorem Options.target?_eq_iff (o : Options) :
    (o.target? = some .native ↔ o.nativeRuntime = true) ∧
      (o.target? = some .docker ↔ (o.dockerRuntime && !o.nativeRuntime) = true) ∧
        o.target? ≠ some .simulation := by
  rw [target?]
  cases o.nativeRuntime <;> cases o.dockerRuntime <;> decide

namespace Backends.Course

variable {b : Backends} {clock : Nat → Float} {o : Options} {code : Text} {d : Dispatched}

theorem visit_exchange (readings : Nat) (v : Visit) :
    (b.exchange clock o readings v).visit = v := by
  rw [exchange]
  split <;> rfl

theorem ne_simulation {target : Target} (named : o.target? = some target) :
    target ≠ .simulation := by
  rintro rfl
  exact o.target?_eq_iff.2.2 named

/-- A target other than the simulation is visited exactly if the options name it. -/
theorem visitsTo_of_ne_simulation (h : Course b clock o code d) {t : Target}
    (ht : t ≠ .simulation) : d.visitsTo t = if o.target? = some t then [⟨t, code⟩] else [] := by
  have hsimulation : ¬ (Visit.simulation code).target = t := fun heq => ht heq.symm
  cases h with
  | simulated unnamed =>
      rw [unnamed]
      simp [Dispatched.visitsTo, hsimulation]
  | @answered target e named first succeeds =>
      rw [named]
      by_cases htarget : target = t
      · subst htarget
        simp [Dispatched.visitsTo]
      · simp [Dispatched.visitsTo, htarget]
  | @fellBack target e named first fails =>
      rw [named]
      by_cases htarget : target = t
      · subst htarget
        simp [Dispatched.visitsTo, hsimulation]
      · simp [Dispatched.visitsTo, hsimulation, htarget]

/-- The simulation is visited exactly if every other visit failed. -/
theorem visitsTo_simulation (h : Course b clock o code d) :
    d.visitsTo .simulation =
      if (b.replay clock o 1 d.visits).all fun e => e.visit.target = .simulation || e.failed then
        [.simulation code]
      else [] := by
  cases h with
  | simulated unnamed => rfl
  | @answered target e named first succeeds =>
      have htarget : target ≠ .simulation := ne_simulation named
      have hvisit : e.visit.target = target := by rw [← first, visit_exchange]
      simp [Dispatched.visitsTo, replay, first, hvisit, htarget, succeeds]
  | @fellBack target e named first fails =>
      have htarget : target ≠ .simulation := ne_simulation named
      simp [Dispatched.visitsTo, replay, first, htarget, fails, visit_exchange, Visit.simulation]

/-- Nothing is called outside but by the visits. -/
theorem calls_eq (h : Course b clock o code d) :
    d.calls = (b.replay clock o 1 d.visits).flatMap Exchange.calls := by
  cases h with
  | simulated unnamed => rfl
  | @answered target e named first succeeds => simp [replay, first]
  | @fellBack target e named first fails =>
      have hnone : (b.exchange clock o (1 + e.readings) (.simulation code)).calls = [] := rfl
      simp [replay, first, hnone]

/-- The last visit settles the outcome. -/
theorem settled (h : Course b clock o code d) :
    ∃ e, (b.replay clock o 1 d.visits).getLast? = some e ∧ e.Settles o.plotOutput d.outcome := by
  cases h with
  | simulated unnamed => exact ⟨_, rfl, Exchange.settles_ofResult (fun _ => rfl) _ _⟩
  | @answered target e named first succeeds =>
      refine ⟨e, by rw [replay, replay, first]; rfl, ?_⟩
      rw [settle, first]
      refine Exchange.settles_ofResult (fun hfailed => ?_) _ _
      rw [succeeds] at hfailed
      cases hfailed
  | @fellBack target e named first fails =>
      refine ⟨_, ?_, Exchange.settles_ofResult (fun _ => rfl) _ _⟩
      rw [replay, replay, replay, first]
      rfl

/-- The time of a dispatch ends behind the readings of all its visits. -/
theorem elapsed_eq (h : Course b clock o code d) :
    d.outcome.elapsed = some (Program.milliseconds (clock 0)
      (clock (1 + Exchange.totalReadings (b.replay clock o 1 d.visits)))) := by
  cases h with
  | simulated unnamed => exact Outcome.elapsed_ofResult _ _ _
  | @answered target e named first succeeds => exact Outcome.elapsed_ofResult _ _ _
  | @fellBack target e named first fails =>
      rw [settle, Outcome.elapsed_ofResult, Nat.add_assoc]
      simp [Exchange.totalReadings, replay, first]

end Backends.Course

namespace Backends

theorem dataset_settle {b : Backends} {o : Options} (h : o.plotOutput = false)
    (clock : Nat → Float) (readings : Nat) (v : Visit) :
    (b.settle clock o readings v).dataset = none := by
  rw [settle, h]
  exact Outcome.dataset_ofResult_false _ _

/-- A dispatch that is not asked for a plot has no dataset, whatever course it takes. -/
theorem dataset_dispatch (b : Backends) (clock : Nat → Float) (code : Text) {o : Options}
    (h : o.plotOutput = false) : (b.dispatch clock code o).outcome.dataset = none := by
  have hcourse : Course b clock o code (b.dispatch clock code o) := course_dispatch code
  generalize b.dispatch clock code o = d at hcourse
  cases hcourse with
  | simulated unnamed => exact dataset_settle h clock _ _
  | answered named first succeeds => exact dataset_settle h clock _ _
  | fellBack named first fails => exact dataset_settle h clock _ _

/-- Every dispatch keeps these promises. -/
theorem dispatch_conforms (b : Backends) (clock : Nat → Float) (code : Text) (o : Options) :
    (b.dispatch clock code o).Conforms b clock code o := by
  have hcourse : Course b clock o code (b.dispatch clock code o) := course_dispatch code
  obtain ⟨hnative, hdocker, -⟩ := o.target?_eq_iff
  refine
    { native := ?_
      docker := ?_
      simulation := hcourse.visitsTo_simulation
      calls := hcourse.calls_eq
      settled := hcourse.settled
      elapsed := hcourse.elapsed_eq
      success_iff := Outcome.success_iff_errorMessage? _ }
  · rw [hcourse.visitsTo_of_ne_simulation (by decide)]
    simp only [hnative]
  · rw [hcourse.visitsTo_of_ne_simulation (by decide)]
    simp only [hdocker]

end Backends

end SignalLab
