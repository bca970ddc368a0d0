import SignalLab.Number.Layout
import SignalLab.Number.Quantity
import SignalLab.Number.Reading
import SignalLab.Text.Keyed

/-!
# Payloads — values of the data format that requests, answers and variable dumps are written in

A payload is null, a truth value, an integer, a double, a text, a list or an object.  Integers and
doubles are told apart, and the entries of an object keep their order.  This file also fixes how
payloads are converted where the receiver wants another kind of value, and the faults of such
conversions.
-/

namespace SignalLab

/-- A value of the data format. -/
inductive Payload where
  | null
  | bool (b : Bool)
  | integer (n : Int)
  | real (x : Float)
  | text (s : Text)
  | list (items : List Payload)
  | object (entries : List (Text × Payload))

namespace Payload

/-! ## Kinds -/

/-- The name of a payload's kind in messages. -/
def kindName : Payload → Text
  | .null => "NoneType"
  | .bool _ => "bool"
  | .integer _ => "int"
  | .real _ => "float"
  | .text _ => "str"
  | .list _ => "list"
  | .object _ => "dict"

/-- Whether a payload counts as true: null, false, zeros and whatever is empty do not. -/
def truthy : Payload → Bool
  | .null => false
  | .bool b => b
  | .integer n => n != 0
  | .real x => x != 0.0
  | .text s => !s.isEmpty
  | .list items => !items.isEmpty
  | .object entries => !entries.isEmpty

/-- Whether a payload is null. -/
def isNull : Payload → Bool
  | .null => true
  | _ => false

/-- Whether a payload is the given text. -/
def isText (s : Text) : Payload → Bool
  | .text t => t = s
  | _ => false

/-- The payload itself if it counts as true. -/
def ifTruthy (p : Payload) : Option Payload :=
  if p.truthy then some p else none

/-! ## Faults -/

/-- Why a payload does not fit where it is used. -/
inductive Fault where
  /-- The payload has no entries or operations under the given name. -/
  | missingMember (kind : Text) (member : Text)
  /-- The payload has no items. -/
  | notIterable (kind : Text)
  /-- The payload is neither a number nor a text. -/
  | notReal (kind : Text)
  | notInteger (kind : Text)
  /-- The text writes no double. -/
  | notDouble (text : Text)
  /-- The text writes no integer. -/
  | integerText (fault : Text.IntegerFault)
  | arithmetic (fault : SignalLab.Fault)
  /-- The value is none of the kinds of series. -/
  | unknownSeriesKind (shown : Text)
  /-- A success with an error message. -/
  | successWithMessage
  /-- There is no option of the given name. -/
  | unknownOption (name : Text)
  deriving DecidableEq, Repr

/-- The wording of a fault. -/
def Fault.message : Fault → Text
  | .missingMember kind member =>
    '\'' :: kind ++ "' object has no attribute '" ++ member ++ ['\'']
  | .notIterable kind => '\'' :: kind ++ "' object is not iterable"
  | .notReal kind => "float() argument must be a string or a real number, not '" ++ kind ++ ['\'']
  | .notInteger kind =>
    "int() argument must be a string, a bytes-like object or a real number, not '" ++ kind ++ ['\'']
  | .notDouble s => "could not convert string to float: " ++ Text.quoted s
  | .integerText fault => fault.message
  | .arithmetic fault => fault.message
  | .unknownSeriesKind shown => "Unknown series kind '" ++ shown ++ ['\'']
  | .successWithMessage => "successful result cannot carry an error message"
  | .unknownOption name =>
    "ExecutionConfig.__init__() got an unexpected keyword argument '" ++ name ++ ['\'']

/-! ## Conversions -/

/-- The entries of an object; `member` is the access that needs them. -/
def entries (member : String) : Payload → Except Fault (Keyed Payload)
  | .object entries => .ok entries
  | p => .error (.missingMember p.kindName member.toList)

/-- The items of a list, the characters of a text, or the keys of an object. -/
def items : Payload → Except Fault (List Payload)
  | .list items => .ok items
  | .text s => .ok (s.map fun c => .text [c])
  | .object entries => .ok (entries.map fun e => .text e.1)
  | p => .error (.notIterable p.kindName)

/-- The payload as a double. -/
def toReal : Payload → Except Fault Float
  | .bool b => .ok (if b then 1.0 else 0.0)
  | .integer n => (Double.ofInt n).mapError .arithmetic
  | .real x => .ok x
  | .text s =>
    match Text.readDouble? s with
    | some x => .ok x
    | none => .error (.notDouble s)
  | p => .error (.notReal p.kindName)

/-- The payload as an integer; doubles lose their places behind the point. -/
def toInteger : Payload → Except Fault Int
  | .bool b => .ok (if b then 1 else 0)
  | .integer n => .ok n
  | .real x => (Double.toInteger .towardZero x).mapError .arithmetic
  | .text s => (Text.readInteger s).mapError .integerText
  | p => .error (.notInteger p.kindName)

/-! ## Display -/

mutual

/-- A payload as it is shown inside another one. -/
def inspect : Payload → Text
  | .null => "None"
  | .bool b => if b then "True" else "False"
  | .integer n => Text.ofInt n
  | .real x => Double.text x
  | .text s => Text.quoted s
  | .list items => '[' :: inspectItems items ++ [']']
  | .object entries => '\x7b' :: inspectEntries entries ++ ['\x7d']

/-- Items with commas between them. -/
def inspectItems : List Payload → Text
  | [] => []
  | [p] => p.inspect
  | p :: ps => p.inspect ++ [',', ' '] ++ inspectItems ps

/-- Entries with commas between them. -/
def inspectEntries : List (Text × Payload) → Text
  | [] => []
  | [(key, p)] => Text.quoted key ++ [':', ' '] ++ p.inspect
  | (key, p) :: es => Text.quoted key ++ [':', ' '] ++ p.inspect ++ [',', ' '] ++ inspectEntries es

end

/-- A payload as it is shown in a message: a text stands for itself. -/
def display : Payload → Text
  | .text s => s
  | p => p.inspect

end Payload

end SignalLab
