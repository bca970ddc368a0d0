import SignalLab.Proofs.Backend.Replay
import SignalLab.Proofs.Fallible
import SignalLab.Proofs.Number.Patterns
import SignalLab.Proofs.Text.Words

/-!
# Degradation — which replies of a backend are given up for a simulation

A dispatch answers with a simulation if the backend that the options name has no outcome.  What that
comes to depends on what is reached outside, and this file says it in terms of that alone:
`ProcessDegrades` of what becomes of the process, `ServiceDegrades` of what the service answers.

  * A process that cannot be launched, that takes too long or whose variables make no dataset is
    given up; otherwise the answer is its own (`IsProcessAnswer`), also where it reports an error.
  * A service that cannot be asked or answers in the wrong shape is given up, but a request that
    fails and a value that cannot be used are reported (`ServiceReports`).

`Backends.dispatch_degrades` is the table for both.  Nothing else can go wrong on the way: a limit
that is a double in milliseconds is a finite one in seconds (`Options.exists_timeoutSeconds`).
-/

namespace SignalLab

open Fallible

/-! ## What degrades, and what is answered otherwise -/

/-- Whether what becomes of a process is given up: it is not launched, it takes too long, or it ends
well and the dataset that is asked for cannot be built from its variables. -/
inductive ProcessDegrades (plotOutput : Bool) : Except ExternalFailure OctaveRun → Prop
  | refused (e : ExternalFailure) : ProcessDegrades plotOutput (.error e)
  | late {run : OctaveRun} (status : run.status = -1) (stderr : run.stderr = "TIMEOUT".toList) :
      ProcessDegrades plotOutput (.ok run)
  | unreadable {run : OctaveRun} {fault : Payload.Fault}
      (quiet : ¬ Text.Mentions "error" run.stderr) (status : run.status = 0)
      (plots : plotOutput = true) (builds : Dump.dataset run.dumped = .error fault) :
      ProcessDegrades plotOutput (.ok run)

/-- The answer that is a process's own. -/
structure IsProcessAnswer (run : OctaveRun) (plotOutput : Bool) (o : Outcome) : Prop where
  transcript : o.transcript =
    ((Text.lines run.stdout).filter fun line => !line.isEmpty).map .text
  success_iff : o.success = true ↔ ¬ Text.Mentions "error" run.stderr ∧ run.status = 0
  dataset : o.success = true → plotOutput = true → Dump.dataset run.dumped = .ok o.dataset

/-- A failure with the lines of a process that did not end well is its own answer. -/
theorem IsProcessAnswer.of_failed {run : OctaveRun} {plotOutput : Bool} {o : Outcome}
    (hfailed : o.success = false) (htranscript : o.transcript = run.outputLines.map .text)
    (hrun : ¬ (¬ Text.Mentions "error" run.stderr ∧ run.status = 0)) :
    IsProcessAnswer run plotOutput o where
  transcript := htranscript
  success_iff := iff_of_false (by rw [hfailed]; exact Bool.false_ne_true) hrun
  dataset := fun hsuccess => nomatch hfailed.symm.trans hsuccess

/-- An outcome is shown with all but its dataset and its time as they were. -/
theorem Outcome.shown_eq (o : Outcome) (plotOutput : Bool) (elapsed : Float) :
    let shown := (o.plotted plotOutput).timed elapsed
    shown.success = o.success ∧ shown.transcript = o.transcript ∧
      shown.errorMessage? = o.errorMessage? := by
  cases plotOutput <;> exact ⟨rfl, rfl, rfl⟩

/-- The answer of a process stays its own where it is shown. -/
theorem IsProcessAnswer.shown {run : OctaveRun} {plotOutput : Bool} {o : Outcome}
    (h : IsProcessAnswer run plotOutput o) (elapsed : Float) :
    IsProcessAnswer run plotOutput ((o.plotted plotOutput).timed elapsed) := by
  cases plotOutput with
  | true => exact ⟨h.transcript, h.success_iff, h.dataset⟩
  | false => exact ⟨h.transcript, h.success_iff, nofun⟩

/-- A fault of decoding that concerns a value: a kind of series that there is not, or a time that is
no number. -/
inductive Payload.Fault.IsValue : Payload.Fault → Prop
  | seriesKind (shown : Text) : IsValue (.unknownSeriesKind shown)
  | number (text : Text) : IsValue (.notDouble text)

/-- Whether the answer of a service is given up: it cannot be asked, or its answer cannot be
decoded, and in both cases neither a request nor a value is to blame. -/
inductive ServiceDegrades : Except ExternalFailure Payload → Prop
  | post {e : ExternalFailure} (request : e.kind ≠ .request) (value : e.kind ≠ .value) :
      ServiceDegrades (.error e)
  | decoding {body : Payload} {fault : Payload.Fault}
      (fails : Outcome.ofPayload body = .error fault) (value : ¬ fault.IsValue) :
      ServiceDegrades (.ok body)

/-- Whether the answer of a service is reported as a failure, and with what message. -/
inductive ServiceReports : Except ExternalFailure Payload → Text → Prop
  | post {e : ExternalFailure} (blamed : e.kind = .request ∨ e.kind = .value) :
      ServiceReports (.error e) e.display
  | decoding {body : Payload} {fault : Payload.Fault}
      (fails : Outcome.ofPayload body = .error fault) (value : fault.IsValue) :
      ServiceReports (.ok body) fault.message

namespace Dispatched

variable (b : Backends) (clock : Nat → Float) (code : Text) (o : Options)

/-- Whether a dispatch went on to the simulation, which then answers. -/
structure IsSimulated (d : Dispatched) : Prop where
  last : d.visits.getLast? = some ⟨.simulation, DenyList.sanitize code⟩
  outcome : ∃ readings, d.outcome = b.simulate clock readings code o

/-- What a dispatch makes of a process. -/
structure FollowsProcess (ending : Except ExternalFailure OctaveRun) (d : Dispatched) : Prop where
  simulated_iff : d.IsSimulated b clock code o ↔ ProcessDegrades o.plotOutput ending
  own : ∀ run, ending = .ok run → ¬ ProcessDegrades o.plotOutput ending →
    IsProcessAnswer run o.plotOutput d.outcome

/-- What a dispatch makes of the answer of a service. -/
structure FollowsService (answer : Except ExternalFailure Payload) (d : Dispatched) : Prop where
  simulated_iff : d.IsSimulated b clock code o ↔ ServiceDegrades answer
  reported : ∀ message, ServiceReports answer message → d.outcome.success = false ∧
    d.outcome.transcript =
      [.text ">> Error executing Octave via Docker", .text (">> " ++ message)]
  decoded : ∀ body decoded, answer = .ok body → Outcome.ofPayload body = .ok decoded →
    d.outcome.success = decoded.success ∧ d.outcome.transcript = decoded.transcript ∧
      d.outcome.errorMessage? = decoded.errorMessage?

end Dispatched

/-! ## Limits that are doubles -/

theorem Options.exists_timeoutSeconds {o : Options}
    (h : ∀ n, o.timeout = some n → ∃ x, Double.ofInt n = .ok x) :
    ∃ y, o.timeoutSeconds = .ok y ∧ ∃ sign m q, Double.parts y = .finite sign m q := by
  rw [timeoutSeconds, effectiveTimeout]
  cases htimeout : o.timeout with
  | none =>
      have hdefault : ∃ x, Double.ofInt defaultTimeout = .ok x := ⟨_, rfl⟩
      obtain ⟨x, hx⟩ := hdefault
      exact Quantity.exists_thousandth hx
  | some n =>
      obtain ⟨x, hx⟩ := h n htimeout
      exact Quantity.exists_thousandth hx

/-! ## The local process -/

namespace OctaveRun

variable {run : OctaveRun} {plotOutput : Bool} {elapsed : Float} {o : Outcome}

theorem isLower_of_mem_error : ∀ l ∈ "error".toList, l.isLower = true :=
  List.all_eq_true.mp rfl

/-- A process reports an error if the word is in what it writes on the error channel. -/
theorem reportsError_iff (run : OctaveRun) :
    run.reportsError = true ↔ Text.Mentions "error" run.stderr :=
  Text.includes_lowerAscii_iff isLower_of_mem_error run.stderr

/-- The mark of a process that was stopped. -/
theorem isTimedOut_iff (run : OctaveRun) :
    run.isTimedOut = true ↔ run.status = -1 ∧ run.stderr = "TIMEOUT".toList := by
  rw [isTimedOut, Bool.and_eq_true, decide_eq_true_iff, decide_eq_true_iff]
  rfl

/-- A run that was not cut short has no outcome exactly if its dataset cannot be built. -/
theorem outcome_error_iff : (∃ fault, run.outcome plotOutput elapsed = .error fault) ↔
    ¬ Text.Mentions "error" run.stderr ∧ run.status = 0 ∧ plotOutput = true ∧
      ∃ fault, Dump.dataset run.dumped = .error fault := by
  rw [outcome, ← reportsError_iff]
  -- the cases are those of the definition: only the last one builds a dataset
  by_cases herror : run.reportsError = true
  · rw [if_pos herror]
    exact iff_of_false (fun ⟨_, h⟩ => nomatch h) fun h => h.1 herror
  rw [if_neg herror]
  by_cases hstatus : run.status = 0
  · rw [if_neg (not_not_intro hstatus)]
    cases plotOutput with
    | false => exact iff_of_false (fun ⟨_, h⟩ => nomatch h) fun h => nomatch h.2.2.1
    | true =>
        cases hdataset : Dump.dataset run.dumped with
        | ok dataset =>
            exact iff_of_false (fun ⟨_, h⟩ => nomatch h) fun ⟨_, _, _, _, h⟩ => nomatch h
        | error fault => exact iff_of_true ⟨fault, rfl⟩ ⟨herror, hstatus, rfl, fault, rfl⟩
  · rw [if_pos hstatus]
    exact iff_of_false (fun ⟨_, h⟩ => nomatch h) fun h => hstatus h.2.1

/-- The outcome of a process is the answer that its output stands for. -/
theorem isProcessAnswer_outcome (h : run.outcome plotOutput elapsed = .ok o) :
    IsProcessAnswer run plotOutput o := by
  rw [outcome] at h
  by_cases herror : run.reportsError = true
  · rw [if_pos herror] at h
    cases h
    exact .of_failed (Outcome.success_failed _ _ _) rfl fun h =>
      h.1 ((reportsError_iff run).mp herror)
  rw [if_neg herror] at h
  by_cases hstatus : run.status = 0
  · rw [if_neg (not_not_intro hstatus)] at h
    have hended : ¬ Text.Mentions "error" run.stderr ∧ run.status = 0 :=
      ⟨fun h => herror ((reportsError_iff run).mpr h), hstatus⟩
    cases plotOutput with
    | false =>
        cases h
        exact ⟨rfl, iff_of_true rfl hended, nofun⟩
    | true =>
        obtain ⟨dataset, hdataset, h⟩ := bind_ok_iff.mp h
        cases h
        exact ⟨rfl, iff_of_true rfl hended, fun _ _ => hdataset⟩
  · rw [if_pos hstatus] at h
    cases h
    exact .of_failed (Outcome.success_failed _ _ _) rfl fun h => hstatus h.2

end OctaveRun

/-- With a time limit that converts to a double there is a launch. -/
theorem exists_launch {o : Options} (h : ∀ n, o.timeout = some n → ∃ x, Double.ofInt n = .ok x)
    (binary code : Text) : ∃ seconds l, o.timeoutSeconds = .ok seconds ∧
      launchOf binary code o seconds = .ok l ∧ l.code = code := by
  obtain ⟨seconds, hseconds, hfinite⟩ := Options.exists_timeoutSeconds h
  obtain ⟨rounded, hrounded⟩ := Double.exists_toInteger .up hfinite
  refine ⟨seconds, ⟨code, seconds, binary, max 1 rounded, o.memoryLimit⟩, hseconds, ?_, rfl⟩
  rw [launchOf, hrounded]
  rfl

/-- The reply of the local process, in terms of what becomes of the process. -/
theorem nativeReply_of_launch {o : Options} {binary code : Text} {seconds : Float} {l : Launch}
    (hseconds : o.timeoutSeconds = .ok seconds) (hl : launchOf binary code o seconds = .ok l)
    (launch : Launch → Except ExternalFailure OctaveRun) (clock : Nat → Float) :
    let reply := nativeReply binary launch clock code o
    reply.calls = [.launch l] ∧
      ((∃ failure, reply.result = .error failure) ↔ ProcessDegrades o.plotOutput (launch l)) ∧
      ∀ run answer, launch l = .ok run → reply.result = .ok answer →
        IsProcessAnswer run o.plotOutput answer := by
  rw [nativeReply, hseconds]
  dsimp only
  rw [hl]
  dsimp only
  cases launch l with
  | error e =>
      refine ⟨rfl, iff_of_true ⟨_, rfl⟩ (.refused e), ?_⟩
      intro run answer h
      cases h
  | ok run =>
      dsimp only
      by_cases hlate : run.isTimedOut = true
      · rw [if_pos hlate]
        obtain ⟨hstatus, hstderr⟩ := (OctaveRun.isTimedOut_iff run).mp hlate
        refine ⟨rfl, iff_of_true ⟨_, rfl⟩ (.late hstatus hstderr), ?_⟩
        intro run' answer _ h
        cases h
      · -- the process ended by itself, so that only its outcome can fail
        rw [if_neg hlate]
        refine ⟨rfl, ?_, ?_⟩
        · constructor
          · rintro ⟨failure, h⟩
            obtain ⟨fault, hfault, -⟩ := mapError_error_iff.mp h
            obtain ⟨hquiet, hstatus, hplots, fault', hbuilds⟩ :=
              OctaveRun.outcome_error_iff.mp ⟨fault, hfault⟩
            exact .unreadable hquiet hstatus hplots hbuilds
          · intro h
            cases h with
            | late hstatus hstderr =>
                exact absurd ((OctaveRun.isTimedOut_iff run).mpr ⟨hstatus, hstderr⟩) hlate
            | unreadable hquiet hstatus hplots hbuilds =>
                obtain ⟨fault, hfault⟩ :=
                  OctaveRun.outcome_error_iff.mpr ⟨hquiet, hstatus, hplots, _, hbuilds⟩
                exact ⟨_, mapError_error_iff.mpr ⟨fault, hfault, rfl⟩⟩
        · intro run' answer hrun h
          cases hrun
          exact OctaveRun.isProcessAnswer_outcome (mapError_ok_iff.mp h)

/-! ## The remote service -/

/-- The faults of decoding: the payload has not the shape of an outcome, a time is beyond the
doubles, or a value cannot be used. -/
inductive Payload.Fault.OfDecoding : Payload.Fault → Prop
  | member (kind member : Text) : OfDecoding (.missingMember kind member)
  | iterable (kind : Text) : OfDecoding (.notIterable kind)
  | real (kind : Text) : OfDecoding (.notReal kind)
  | range : OfDecoding (.arithmetic .integerRange)
  | value {fault : Payload.Fault} (value : fault.IsValue) : OfDecoding fault

namespace Payload

variable {p : Payload} {fault : Fault}

/-- A payload that is no object fails in its decoding. -/
theorem ofDecoding_entries {member : String} (h : p.entries member = .error fault) :
    fault.OfDecoding := by
  cases p with
  | object entries => cases h
  | _ =>
      cases h
      exact .member _ _

theorem ofDecoding_items (h : p.items = .error fault) : fault.OfDecoding := by
  cases p with
  | list items => cases h
  | text s => cases h
  | object entries => cases h
  | _ =>
      cases h
      exact .iterable _

theorem ofDecoding_toReal (h : p.toReal = .error fault) : fault.OfDecoding := by
  cases p with
  | bool b => cases h
  | real x => cases h
  | integer n =>
      obtain ⟨e, he, rfl⟩ := mapError_error_iff.mp h
      rw [Double.ofInt] at he
      split at he
      · cases he
      · cases he
        exact .range
  | text s =>
      rw [toReal] at h
      split at h
      · cases h
      · cases h
        exact .value (.number s)
  | _ =>
      cases h
      exact .real _

/-- Of the faults of decoding those that concern a value are told apart by their class. -/
theorem isValueFault_iff (h : fault.OfDecoding) : fault.isValueFault = true ↔ fault.IsValue := by
  cases h with
  | value value =>
      refine iff_of_true ?_ value
      cases value <;> rfl
  | _ => exact iff_of_false Bool.false_ne_true nofun

end Payload

variable {p : Payload} {fault : Payload.Fault} {entries : Keyed Payload}

/-- So does one whose member is no list. -/
theorem ofDecoding_itemsAt {key : String} (h : Series.itemsAt entries key = .error fault) :
    fault.OfDecoding := by
  rw [Series.itemsAt] at h
  split at h
  · exact Payload.ofDecoding_items h
  · cases h

theorem ofDecoding_kind (h : SeriesKind.ofPayload p = .error fault) : fault.OfDecoding := by
  unfold SeriesKind.ofPayload at h
  dsimp only at h
  split at h
  · cases h
  · cases h
    exact .value (.seriesKind _)

/-- So does one that is no series. -/
theorem ofDecoding_series (h : Series.ofPayload p = .error fault) : fault.OfDecoding := by
  rcases bind_error_iff.mp h with h | ⟨entries, -, h⟩
  · exact Payload.ofDecoding_entries h
  rcases bind_error_iff.mp h with h | ⟨x, -, h⟩
  · exact ofDecoding_itemsAt h
  rcases bind_error_iff.mp h with h | ⟨y, -, h⟩
  · exact ofDecoding_itemsAt h
  split at h
  · cases h
  · rcases bind_error_iff.mp h with h | ⟨kind, -, h⟩
    · exact ofDecoding_kind h
    · cases h

/-- So does one that is no dataset. -/
theorem ofDecoding_datasetOf (h : Outcome.datasetOf entries = .error fault) :
    fault.OfDecoding := by
  rw [Outcome.datasetOf] at h
  split at h
  · cases h
  · rcases bind_error_iff.mp h with h | ⟨items, -, h⟩
    · exact Payload.ofDecoding_entries h
    rcases bind_error_iff.mp h with h | ⟨dataset, -, h⟩
    · obtain ⟨entry, -, h⟩ := exists_mem_of_mapM_error h
      rcases bind_error_iff.mp h with h | ⟨series, -, h⟩
      · exact ofDecoding_series h
      · cases h
    · cases h

/-- Whatever keeps a payload from being decoded is one of these faults. -/
theorem ofDecoding_outcome (h : Outcome.ofPayload p = .error fault) : fault.OfDecoding := by
  rcases bind_error_iff.mp h with h | ⟨entries, -, h⟩
  · exact Payload.ofDecoding_entries h
  rcases bind_error_iff.mp h with h | ⟨dataset, -, h⟩
  · exact ofDecoding_datasetOf h
  rcases bind_error_iff.mp h with h | ⟨transcript, -, h⟩
  · exact ofDecoding_itemsAt h
  rcases bind_error_iff.mp h with h | ⟨elapsed, -, h⟩
  · rw [Outcome.elapsedOf] at h
    split at h
    · cases h
    · exact Payload.ofDecoding_toReal (map_error_iff.mp h)
  · cases h

/-- The failures of the transport are those of requests and of values. -/
theorem ExternalFailure.isService_iff (e : ExternalFailure) :
    e.isService = true ↔ e.kind = .request ∨ e.kind = .value := by
  rw [isService, Bool.or_eq_true, decide_eq_true_iff, decide_eq_true_iff]

/-- An answer is given up, reported as a failure, or decoded. -/
theorem service_cases (answer : Except ExternalFailure Payload) :
    ServiceDegrades answer ∨ (∃ message, ServiceReports answer message) ∨
      ∃ body decoded, answer = .ok body ∧ Outcome.ofPayload body = .ok decoded := by
  cases answer with
  | error e =>
      by_cases hblamed : e.kind = .request ∨ e.kind = .value
      · exact .inr (.inl ⟨_, .post hblamed⟩)
      · exact .inl (.post (fun h => hblamed (.inl h)) fun h => hblamed (.inr h))
  | ok body =>
      -- the service answered: whether it counts is up to what decoding makes of the answer
      cases hbody : Outcome.ofPayload body with
      | ok decoded => exact .inr (.inr ⟨body, decoded, rfl, hbody⟩)
      | error fault =>
          by_cases hvalue : fault.IsValue
          · exact .inr (.inl ⟨_, .decoding hbody hvalue⟩)
          · exact .inl (.decoding hbody hvalue)

section Answers

variable {elapsed : Float} {answer : Except ExternalFailure Payload}

/-- A service that does not answer is passed over. -/
theorem answeredPost_of_degrades (h : ServiceDegrades answer) :
    ∃ failure, (answeredPost elapsed answer).1 = .error failure := by
  cases h with
  | @post e hrequest hvalue =>
      have hservice : ¬ e.isService = true :=
        fun h => (e.isService_iff.mp h).elim hrequest hvalue
      rw [answeredPost]
      rw [if_neg hservice]
      exact ⟨_, rfl⟩
  | @decoding body fault hfails hvalue =>
      have hfault : ¬ fault.isValueFault = true :=
        fun h => hvalue ((Payload.isValueFault_iff (ofDecoding_outcome hfails)).mp h)
      rw [answeredPost]
      rw [hfails]
      dsimp only
      rw [if_neg hfault]
      exact ⟨_, rfl⟩

/-- A failure of the transport is an answer with its message. -/
theorem answeredPost_of_reports {message : Text} (h : ServiceReports answer message) :
    (answeredPost elapsed answer).1 = .ok (failedPost message elapsed) := by
  cases h with
  | @post e hblamed =>
      rw [answeredPost]
      rw [if_pos (e.isService_iff.mpr hblamed)]
  | @decoding body fault hfails hvalue =>
      rw [answeredPost]
      rw [hfails]
      dsimp only
      rw [if_pos ((Payload.isValueFault_iff (ofDecoding_outcome hfails)).mpr hvalue)]

/-- An answer that can be decoded is passed on. -/
theorem answeredPost_of_decoded {body : Payload} {decoded : Outcome}
    (h : Outcome.ofPayload body = .ok decoded) :
    (answeredPost elapsed (.ok body)).1 = .ok (decoded.timedIfOpen elapsed) := by
  rw [answeredPost]
  rw [h]

/-- A post has no outcome exactly if its answer is given up. -/
theorem answeredPost_error_iff :
    (∃ failure, (answeredPost elapsed answer).1 = .error failure) ↔ ServiceDegrades answer := by
  refine ⟨?_, answeredPost_of_degrades⟩
  rintro ⟨failure, h⟩
  -- the other two kinds of answers come with an outcome
  rcases service_cases answer with hdegrades | ⟨message, hreports⟩ | ⟨body, decoded, rfl, hdecoded⟩
  · exact hdegrades
  · cases (answeredPost_of_reports hreports).symm.trans h
  · cases (answeredPost_of_decoded hdecoded).symm.trans h

end Answers

theorem serviceReply_of_post {host : Host} {o : Options} {given address code : Text} {p : Post}
    (hfound : serviceAddress? host given = some address)
    (hp : postOf address (serviceKey? host o) code o = .ok p)
    (post : Post → Except ExternalFailure Payload) (clock : Nat → Float) :
    let reply := serviceReply host given post clock code o
    reply.calls = [.post p] ∧ ∃ elapsed, reply.result = (answeredPost elapsed (post p)).1 := by
  rw [serviceReply, hfound]
  dsimp only
  rw [hp]
  exact ⟨rfl, _, rfl⟩

/-- With a time limit that converts to a double there is a post. -/
theorem exists_post {o : Options} (h : ∀ n, o.timeout = some n → ∃ x, Double.ofInt n = .ok x)
    (address : Text) (key : Option Text) (code : Text) :
    ∃ p, postOf address key code o = .ok p ∧ p.address = address ∧ p.code = code ∧
      p.limit = o.effectiveTimeout := by
  obtain ⟨seconds, hseconds, -⟩ := Options.exists_timeoutSeconds h
  refine ⟨⟨address, code, o.effectiveTimeout, postHeaders key, seconds + graceSeconds⟩, ?_, rfl,
    rfl, rfl⟩
  rw [postOf, hseconds]
  rfl

/-! ## Dispatches -/

namespace Backends

variable {b : Backends} {clock : Nat → Float} {o : Options} {code : Text} {target : Target}
  {backend : (Nat → Float) → Text → Options → Reply}

/-- A dispatch to a backend: it calls what the backend calls, simulates if the backend failed, and
otherwise shows the outcome of the backend. -/
theorem dispatch_of_reply (hchosen : b.chosen? o = some (target, backend)) {reply : Reply}
    (hreply : backend (Program.clockFrom clock 1) code o = reply) :
    let d := b.dispatch clock code o
    d.calls = reply.calls ∧
      (d.IsSimulated b clock code o ↔ ∃ failure, reply.result = .error failure) ∧
      ∀ answer, reply.result = .ok answer →
        ∃ elapsed, d.outcome = (answer.plotted o.plotOutput).timed elapsed := by
  have htarget : target ≠ .simulation :=
    Course.ne_simulation (target?_of_chosen clock hchosen).1
  obtain ⟨result, calls, readings⟩ := reply
  rw [dispatch, hchosen]
  dsimp only
  rw [hreply]
  cases result with
  | ok answer =>
      refine ⟨rfl, ⟨?_, ?_⟩, ?_⟩
      · -- the backend was visited last, and no backend is the simulation
        rintro ⟨hlast, -⟩
        exact absurd (congrArg Visit.target (Option.some.inj hlast)) htarget
      · rintro ⟨failure, h⟩
        cases h
      · intro answer' h
        cases h
        exact ⟨_, rfl⟩
  | error failure =>
      refine ⟨rfl, iff_of_true ⟨rfl, _, rfl⟩ ⟨failure, rfl⟩, ?_⟩
      intro answer h
      cases h

/-- A dispatch to the local process follows what becomes of the process. -/
theorem follows_process {binary : Text} {launch : Launch → Except ExternalFailure OctaveRun}
    (hchosen : b.chosen? o = some (.native, nativeReply binary launch))
    (h : ∀ n, o.timeout = some n → ∃ x, Double.ofInt n = .ok x) :
    ∃ l, l.code = code ∧ (b.dispatch clock code o).calls = [.launch l] ∧
      (b.dispatch clock code o).FollowsProcess b clock code o (launch l) := by
  obtain ⟨seconds, l, hseconds, hl, hcode⟩ := exists_launch h binary code
  obtain ⟨hcalls, hsimulated, hanswer⟩ := @dispatch_of_reply b clock o code _ _ hchosen _ rfl
  obtain ⟨hlaunched, hdegrades, hown⟩ :=
    nativeReply_of_launch hseconds hl launch (Program.clockFrom clock 1)
  refine ⟨l, hcode, hcalls.trans hlaunched, hsimulated.trans hdegrades, ?_⟩
  intro run hrun hnot
  cases hresult : (nativeReply binary launch (Program.clockFrom clock 1) code o).result with
  | error failure => exact absurd (hdegrades.mp ⟨failure, hresult⟩) hnot
  | ok answer =>
      obtain ⟨elapsed, houtcome⟩ := hanswer answer hresult
      rw [houtcome]
      exact (hown run answer hrun hresult).shown elapsed

/-- A dispatch to a service that has no address posts nothing and simulates. -/
theorem simulated_of_no_address {post : Post → Except ExternalFailure Payload}
    (hchosen : b.chosen? o = some (.docker, serviceReply [] [] post)) :
    (b.dispatch clock code o).calls = [] ∧
      (b.dispatch clock code o).IsSimulated b clock code o := by
  obtain ⟨hcalls, hsimulated, -⟩ := @dispatch_of_reply b clock o code _ _ hchosen _ rfl
  exact ⟨hcalls, hsimulated.mpr ⟨.noAddress, rfl⟩⟩

/-- A dispatch to a service that has an address follows its answer. -/
theorem follows_service {address : Text} {post : Post → Except ExternalFailure Payload}
    (hchosen : b.chosen? o = some (.docker, serviceReply [] address post))
    (h : ∀ n, o.timeout = some n → ∃ x, Double.ofInt n = .ok x) (haddress : address ≠ []) :
    ∃ p, p.address = address ∧ p.code = code ∧ (b.dispatch clock code o).calls = [.post p] ∧
      (b.dispatch clock code o).FollowsService b clock code o (post p) := by
  obtain ⟨hcalls, hsimulated, hanswer⟩ := @dispatch_of_reply b clock o code _ _ hchosen _ rfl
  obtain ⟨p, hp, hto, hcode, -⟩ := exists_post h address (serviceKey? [] o) code
  have hfound : serviceAddress? [] address = some address := by
    rw [serviceAddress?, if_neg (fun h => haddress (List.isEmpty_iff.mp h))]
  obtain ⟨hposted, elapsed, hresult⟩ :=
    serviceReply_of_post hfound hp post (Program.clockFrom clock 1)
  refine ⟨p, hto, hcode, hcalls.trans hposted, ?_, ?_, ?_⟩
  · rw [hsimulated, hresult, answeredPost_error_iff]
  · intro message hreports
    obtain ⟨shown, houtcome⟩ := hanswer _ (hresult.trans (answeredPost_of_reports hreports))
    obtain ⟨hsuccess, htranscript, -⟩ :=
      Outcome.shown_eq (failedPost message elapsed) o.plotOutput shown
    rw [houtcome]
    exact ⟨hsuccess.trans (Outcome.success_failed _ _ _), htranscript⟩
  · intro body decoded hbody hdecoded
    rw [hbody] at hresult
    obtain ⟨shown, houtcome⟩ := hanswer _ (hresult.trans (answeredPost_of_decoded hdecoded))
    rw [houtcome]
    exact Outcome.shown_eq (decoded.timedIfOpen elapsed) o.plotOutput shown

/-- Which dispatches degrade to a simulation, and what the others answer: by what becomes of the
process, or by the answer of the service. -/
theorem dispatch_degrades (launch : Launch → Except ExternalFailure OctaveRun) (binary : Text)
    (post : Post → Except ExternalFailure Payload) (address : Text)
    (simulator : (Nat → Float) → Text → Except Text Outcome × Nat) (clock : Nat → Float)
    (code : Text) (o : Options) (h : ∀ n, o.timeout = some n → ∃ x, Double.ofInt n = .ok x) :
    let b : Backends :=
      ⟨nativeReply (octaveBinary [] binary) launch, serviceReply [] address post, simulator⟩
    let d := b.dispatch clock code o
    (o.nativeRuntime = true →
      ∃ l, l.code = code ∧ d.calls = [.launch l] ∧ d.FollowsProcess b clock code o (launch l)) ∧
    (o.nativeRuntime = false → o.dockerRuntime = true →
      (address = [] → d.calls = [] ∧ d.IsSimulated b clock code o) ∧
      (address ≠ [] → ∃ p, p.address = address ∧ p.code = code ∧ d.calls = [.post p] ∧
        d.FollowsService b clock code o (post p))) := by
  intro b d
  constructor
  · intro hnative
    have hchosen : b.chosen? o = some (.native, b.native) := by
      rw [chosen?, if_pos hnative]
    exact follows_process hchosen h
  · intro hnative hdocker
    have hchosen : b.chosen? o = some (.docker, serviceReply [] address post) := by
      rw [chosen?, hnative, if_neg Bool.false_ne_true, if_pos hdocker]
    constructor
    · rintro rfl
      exact simulated_of_no_address hchosen
    · exact follows_service hchosen h

/-- Variables in the wrong shape degrade to a simulation, and a kind of series that there is not is
reported. -/
theorem dispatch_degrades_of_wrong_shapes :
    let run : OctaveRun := ⟨0, "3\n", "warning: rounded", .list [.null]⟩
    let series : Payload := .object [("kind", .text "pie")]
    let body : Payload := .object [("success", .bool true), ("data", .object [("time", series)])]
    let b : Backends := ⟨nativeReply (octaveBinary [] []) fun _ => .ok run,
      serviceReply [] "http://host" fun _ => .ok body, SignalLab.simulator fun _ => 0.0⟩
    let clock : Nat → Float := fun _ => 0.0
    let native : Options := { timeout := some 2500, nativeRuntime := true }
    let docker : Options := { timeout := some 2500, dockerRuntime := true }
    (∀ n, native.timeout = some n → ∃ x, Double.ofInt n = .ok x) ∧
      (∀ n, docker.timeout = some n → ∃ x, Double.ofInt n = .ok x) ∧
      (b.dispatch clock "x = 1" native).IsSimulated b clock "x = 1" native ∧
      (b.dispatch clock "x = 1" docker).outcome.transcript =
        [.text ">> Error executing Octave via Docker", .text ">> Unknown series kind 'pie'"] := by
  intro run series body b clock native docker
  have hlimit : ∀ n, some (2500 : Int) = some n → ∃ x, Double.ofInt n = .ok x := by
    rintro n ⟨⟩
    exact ⟨_, rfl⟩
  refine ⟨hlimit, hlimit, ?_, ?_⟩
  · have hfollows : (b.dispatch clock "x = 1" native).FollowsProcess b clock "x = 1" native
        (.ok run) := by
      obtain ⟨l, -, -, hfollows⟩ :=
        (dispatch_degrades (fun _ => .ok run) [] (fun _ => .ok body) "http://host"
          (SignalLab.simulator fun _ => 0.0) clock "x = 1" native hlimit).1 rfl
      exact hfollows
    have hquiet : ¬ Text.Mentions "error" run.stderr := by
      rw [← OctaveRun.reportsError_iff]
      decide
    have hbuilds : Dump.dataset run.dumped = .error (.missingMember "list" "get") := by rfl
    exact hfollows.simulated_iff.mpr (.unreadable hquiet rfl rfl hbuilds)
  · have hfollows : (b.dispatch clock "x = 1" docker).FollowsService b clock "x = 1" docker
        (.ok body) := by
      obtain ⟨p, -, -, -, hfollows⟩ :=
        ((dispatch_degrades (fun _ => .ok run) [] (fun _ => .ok body) "http://host"
          (SignalLab.simulator fun _ => 0.0) clock "x = 1" docker hlimit).2 rfl rfl).2
            (List.cons_ne_nil _ _)
      exact hfollows
    have hkind : Outcome.ofPayload body = .error (.unknownSeriesKind "pie".toList) := by rfl
    exact (hfollows.reported _ (.decoding hkind (.seriesKind _))).2

end Backends

end SignalLab
