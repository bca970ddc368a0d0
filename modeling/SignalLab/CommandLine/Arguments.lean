import SignalLab.Number.Reading
import SignalLab.Text.Basic

/-!
# Arguments — the switches of the command line

An argument is a switch if it begins with a dash.  Long switches may be cut short as long as they
stay distinct, and take their value from behind an equals sign or from the next argument.  A lone
dash, negative numbers and whatever contains a blank are words, as is everything behind a double
dash.  The one word that is no value is the path of the program.
-/

namespace SignalLab.CommandLine

/-- The ways to execute a program. -/
inductive Mode where
  | dispatch | interpreter | lab
  deriving DecidableEq, Repr

/-- The mode with the given name. -/
def Mode.ofName? (name : Text) : Option Mode :=
  if name = "dispatch".toList then some .dispatch
  else if name = "interpreter".toList then some .interpreter
  else if name = "lab".toList then some .lab
  else none

/-- The arguments of the command. -/
structure Arguments where
  mode : Mode := .dispatch
  timeout : Option Int := none
  memoryLimit : Option Int := none
  noPlot : Bool := false
  seed : Option Int := none
  deriving DecidableEq, Repr

/-- The switches. -/
inductive Switch where
  | help | mode | timeout | memoryLimit | noPlot | seed | logLevel
  deriving DecidableEq, Repr

namespace Switch

/-- The long switches by name. -/
def longNames : List (String × Switch) :=
  [("--help", help), ("--mode", mode), ("--timeout-ms", timeout),
   ("--memory-limit-mb", memoryLimit), ("--no-plot", noPlot), ("--seed", seed),
   ("--log-level", logLevel)]

/-- The switch with exactly the given name. -/
def ofName? (name : Text) : Option Switch :=
  if name = "-h".toList then some help
  else (longNames.find? fun entry => entry.1.toList = name).map (·.2)

/-- The long switches whose names begin with a text. -/
def startingWith (s : Text) : List Switch :=
  (longNames.filter fun entry => s.isPrefixOf entry.1.toList).map (·.2)

/-- The arguments after a switch with a value; nothing if the value does not suit. -/
def setValue? (sw : Switch) (value : Text) (a : Arguments) : Option Arguments :=
  match sw with
  | mode => (Mode.ofName? value).map fun mode => { a with mode }
  | timeout => (Text.readInteger value).toOption.map fun n => { a with timeout := some n }
  | memoryLimit => (Text.readInteger value).toOption.map fun n => { a with memoryLimit := some n }
  | seed => (Text.readInteger value).toOption.map fun n => { a with seed := some n }
  | logLevel => some a
  | help => none
  | noPlot => none

end Switch

/-! ## Items -/

/-- What an argument is. -/
inductive Item where
  | word (s : Text)
  | long (sw : Switch) (attached : Option Text)
  /-- The short switch for help, with what is attached to it. -/
  | short (attached : Text)
  | unknown
  | separator
  deriving DecidableEq, Repr

/-- The text before the first equals sign, and the text behind it if there is one. -/
def cutValue (s : Text) : Text × Option Text :=
  let name := s.takeWhile fun c => c ≠ '='
  match s.drop name.length with
  | [] => (name, none)
  | _ :: value => (name, some value)

/-- Whether a text is a negative number without an exponent; a line feed may follow it. -/
def isNegativeNumber (s : Text) : Bool :=
  match s with
  | '-' :: rest =>
    let body := if rest.getLast? = some '\n' then rest.dropLast else rest
    match Text.takeDigits body with
    | (_ :: _, []) => true
    | (_, '.' :: fraction) =>
      match Text.takeDigits fraction with
      | (_ :: _, []) => true
      | _ => false
    | _ => false
  | _ => false

/-- An argument that begins with a dash and names no switch. -/
def unnamed (s : Text) : Item :=
  if isNegativeNumber s || s.contains ' ' then .word s else .unknown

/-- What a switch in full, with the value behind its equals sign, is. -/
def switchItem (sw : Switch) (name : Text) (value : Option Text) : Item :=
  if name = "-h".toList then .short ((value.map fun v => '=' :: v).getD []) else .long sw value

/-- What an argument is; nothing if it is cut short too much. -/
def Item.ofText? (s : Text) : Option Item :=
  if s = "--".toList then some .separator
  else if s.head? ≠ some '-' ∨ s.length = 1 then some (.word s)
  else
    let (name, value) := cutValue s
    match Switch.ofName? name with
    | some sw => some (switchItem sw name value)
    | none =>
      if "--".toList.isPrefixOf s then
        match Switch.startingWith name with
        | [] => some (unnamed s)
        | [sw] => some (.long sw value)
        | _ => none
      else if "-h".toList.isPrefixOf s then some (.short (s.drop 2))
      else some (unnamed s)

/-- What arguments are; behind a separator all are words. -/
def items? : List Text → Option (List Item)
  | [] => some []
  | s :: rest => do
    match ← Item.ofText? s with
    | .separator => some (.separator :: rest.map .word)
    | item => some (item :: (← items? rest))

/-! ## Requests -/

/-- What the command line asks for. -/
inductive Request where
  | help
  | run (path : Text) (a : Arguments)
  deriving DecidableEq, Repr

/-- Whether a text may be attached to the short switch for help.  The same letter may be repeated,
and neither an equals sign nor a dash may follow. -/
def mayAttach (attached : Text) : Bool :=
  let rest := attached.dropWhile fun c => c = 'h'
  rest.head? ≠ some '=' && rest.head? ≠ some '-'

/-- The request of the items, with the path and the arguments found so far; `extra` says whether
something has been left over.  Help is given at once. -/
def requestFrom (path : Option Text) (extra : Bool) (a : Arguments) : List Item → Option Request
  | [] =>
    match path with
    | some path => if extra then none else some (.run path a)
    | none => none
  | .unknown :: rest => requestFrom path true a rest
  | .short attached :: _ => if mayAttach attached then some .help else none
  | .long .help none :: _ => some .help
  | .long .noPlot none :: rest => requestFrom path extra { a with noPlot := true } rest
  | .long sw (some value) :: rest => do requestFrom path extra (← sw.setValue? value a) rest
  | .long sw none :: .word value :: rest => do
    requestFrom path extra (← sw.setValue? value a) rest
  | .long _ none :: _ => none
  | .word s :: .separator :: rest =>
    if path.isNone then requestFrom (some s) extra a rest
    else requestFrom path true a (.separator :: rest)
  | .word s :: rest =>
    if path.isNone then requestFrom (some s) extra a rest else requestFrom path true a rest
  | .separator :: .word s :: rest =>
    if path.isNone then requestFrom (some s) extra a rest else requestFrom path true a rest
  | .separator :: rest => requestFrom path true a rest

/-- The request of a command line; nothing if its arguments are faulty. -/
def request? (arguments : List Text) : Option Request := do
  requestFrom none false {} (← items? arguments)

end SignalLab.CommandLine
