import SignalLab.Outcome.Series

/-!
# Outcomes — what a run of a program comes to

An outcome has a verdict, a transcript, perhaps a dataset and perhaps the time it took.  A success
has no error message, and a failure always has one that counts as true.  `toPayload` writes an
outcome and `ofPayload` reads one; an empty dataset is not written.
-/

namespace SignalLab

/-- Success, or failure with a message. -/
inductive Verdict where
  | success
  | failure (message : Payload) (truthy : message.truthy = true)

namespace Verdict

/-- The message of a failure that says nothing about itself. -/
def unknownError : Text := "Unknown error"

/-- The failure with the given message, or with the unknown one if it is empty. -/
def ofMessage (message : Payload) : Verdict :=
  if h : message.truthy = true then .failure message h else .failure (.text unknownError) rfl

/-- Whether a verdict is success. -/
def isSuccess : Verdict → Bool
  | success => true
  | failure .. => false

/-- The message of a failure. -/
def message? : Verdict → Option Payload
  | success => none
  | failure message _ => some message

/-- The verdict of the given flag and message; a success must not have a message. -/
def make (isSuccess : Bool) (message : Payload) : Except Payload.Fault Verdict :=
  if isSuccess then if message.isNull then .ok .success else .error .successWithMessage
  else .ok (ofMessage message)

end Verdict

/-- What a run of a program comes to. -/
structure Outcome where
  verdict : Verdict
  transcript : List Payload
  dataset : Option Dataset
  elapsed : Option Float

namespace Outcome

/-- Whether an outcome is a success. -/
def success (o : Outcome) : Bool := o.verdict.isSuccess

/-- The error message of an outcome that is no success. -/
def errorMessage? (o : Outcome) : Option Payload := o.verdict.message?

/-- A failure with a message and a transcript. -/
def failed (message : Text) (transcript : List Text) (elapsed : Option Float) : Outcome :=
  ⟨.ofMessage (.text message), transcript.map .text, none, elapsed⟩

/-- A success; an empty dataset is none. -/
def succeeded (transcript : List Text) (dataset : Dataset) (elapsed : Option Float) : Outcome :=
  ⟨.success, transcript.map .text, if dataset.isEmpty then none else some dataset, elapsed⟩

/-! ## Payloads -/

/-- A dataset as a payload. -/
def datasetPayload (dataset : Dataset) : Payload :=
  .object (dataset.map fun (name, series) => (name, series.toPayload))

/-- The entry of a dataset, if it has any series. -/
def dataEntry (dataset : Option Dataset) : Keyed Payload :=
  match dataset with
  | some (series :: rest) => [("data".toList, datasetPayload (series :: rest))]
  | _ => []

/-- The entry of an optional payload. -/
def optionalEntry (key : String) (p : Option Payload) : Keyed Payload :=
  match p with
  | some p => [(key.toList, p)]
  | none => []

/-- An outcome as a payload. -/
def toPayload (o : Outcome) : Payload :=
  .object ([("success".toList, .bool o.success), ("output".toList, .list o.transcript)] ++
    dataEntry o.dataset ++ optionalEntry "errorMessage" o.errorMessage? ++
    optionalEntry "executionTimeMs" (o.elapsed.map .real))

/-- The series of the entries that count as true. -/
def datasetOfEntries (entries : Keyed Payload) : Except Payload.Fault Dataset :=
  (entries.filter fun entry => entry.2.truthy).mapM fun entry => do
    let series ← Series.ofPayload entry.2
    .ok (entry.1, series)

/-- The dataset under the key `data`; none if it is missing or empty. -/
def datasetOf (entries : Keyed Payload) : Except Payload.Fault (Option Dataset) := do
  match (Keyed.find? "data" entries).bind Payload.ifTruthy with
  | none => .ok none
  | some p =>
    let dataset ← datasetOfEntries (← p.entries "items")
    .ok (if dataset.isEmpty then none else some dataset)

/-- The message of a failure that was reported without one. -/
def remoteFailure : Text := "Remote execution failed"

/-- The error message of a failure: the first entry that counts as true. -/
def messageOf (entries : Keyed Payload) : Payload :=
  let at? (key : String) := (Keyed.find? key entries).bind Payload.ifTruthy
  ((at? "errorMessage").or (at? "error")).getD (.text remoteFailure)

/-- The time a payload reports. -/
def elapsedOf (p : Payload) : Except Payload.Fault (Option Float) :=
  if p.isNull then .ok none else p.toReal.map some

/-- The outcome a payload writes. -/
def ofPayload (p : Payload) : Except Payload.Fault Outcome := do
  let entries ← p.entries "get"
  let success := (Keyed.find? "success" entries).any Payload.truthy
  let dataset ← datasetOf entries
  let transcript ← Series.itemsAt entries "output"
  let elapsed ← elapsedOf (Series.entryOr entries "executionTimeMs" "executionTime")
  .ok ⟨if success then .success else .ofMessage (messageOf entries), transcript, dataset, elapsed⟩

end Outcome

end SignalLab
