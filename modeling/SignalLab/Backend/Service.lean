import SignalLab.Backend.Failure
import SignalLab.Program.Run

/-!
# The remote service — programs run elsewhere

A program is posted with its time limit and, if there is one, a key.  The answer is an outcome as a
payload.  A failed request and a value that cannot be used become failing outcomes; only a missing
address and other failures are left to the caller.
-/

namespace SignalLab

/-- The variable with the address of the service. -/
def addressVariable : Text := "OCTAVE_API_URL"

/-- The address of the service: the given one, or else the one the host names. -/
def serviceAddress? (host : Host) (given : Text) : Option Text :=
  if given.isEmpty then host.nonempty? addressVariable else some given

/-- The key to post with: that of the options, or else that of the host. -/
def serviceKey? (host : Host) (o : Options) : Option Text :=
  (o.apiKey.filter fun key => !key.isEmpty).or (host.nonempty? Options.keyVariable)

/-- The headers of a post. -/
def postHeaders (key : Option Text) : Keyed Text :=
  let kind := ("Content-Type".toList, "application/json".toList)
  match key with
  | some key => [kind, ("Authorization".toList, "Bearer " ++ key)]
  | none => [kind]

/-- The seconds beyond a program's limit that are left to the service to report it. -/
def graceSeconds : Float := 5.0

/-- The post of a program. -/
def postOf (address : Text) (key : Option Text) (code : Text) (o : Options) :
    Except Fault Post := do
  let seconds ← o.timeoutSeconds
  .ok ⟨address, code, o.effectiveTimeout, postHeaders key, seconds + graceSeconds⟩

/-- Whether a payload's fault concerns a value and not the shape of the payload. -/
def Payload.Fault.isValueFault : Payload.Fault → Bool
  | .notDouble _ | .integerText _ | .unknownSeriesKind _ | .successWithMessage => true
  | .arithmetic .nanToInteger => true
  | _ => false

/-- The failing outcome of a post. -/
def failedPost (message : Text) (elapsed : Float) : Outcome :=
  .failed message [">> Error executing Octave via Docker".toList, ">> " ++ message] (some elapsed)

/-- The outcome with the given time, unless it has one. -/
def Outcome.timedIfOpen (o : Outcome) (elapsed : Float) : Outcome :=
  { o with elapsed := some (o.elapsed.getD elapsed) }

/-- The result and the readings of the clock of a post that was answered. -/
def answeredPost (elapsed : Float) (answer : Except ExternalFailure Payload) :
    Except BackendFailure Outcome × Nat :=
  match answer with
  | .error e =>
    if e.isService then (.ok (failedPost e.display elapsed), 2) else (.error (.external e), 1)
  | .ok p =>
    match Outcome.ofPayload p with
    | .error fault =>
      if fault.isValueFault then (.ok (failedPost fault.message elapsed), 2)
      else (.error (.payload fault), 1)
    | .ok o => (.ok (o.timedIfOpen elapsed), if o.elapsed.isNone then 2 else 1)

/-- The reply of the remote service, reached by `post`. -/
def serviceReply (host : Host) (given : Text) (post : Post → Except ExternalFailure Payload)
    (clock : Nat → Float) (code : Text) (o : Options) : Reply :=
  match serviceAddress? host given with
  | none => ⟨.error .noAddress, [], 0⟩
  | some address =>
    match postOf address (serviceKey? host o) code o with
    | .error fault => ⟨.error (.arithmetic fault), [], 1⟩
    | .ok p =>
      let elapsed := Program.milliseconds (clock 0) (clock 1)
      let (result, readings) := answeredPost elapsed (post p)
      ⟨result, [.post p], readings⟩

end SignalLab
