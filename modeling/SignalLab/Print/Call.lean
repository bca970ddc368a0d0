import SignalLab.Expression.Evaluation
import SignalLab.Print.Format
import SignalLab.Program.Assignment
import SignalLab.Text.Literal

/-!
# Print calls — `fprintf` with a format and arguments

The format is a quoted literal; the arguments behind it are cut at top-level commas.  An argument is
a quoted literal, the length of a variable, an element of a vector or an expression.  A call that is no
notation prints nothing, and neither does one whose arguments or format end in an error of a class that
its handler lists (`passedOver`).  An error of any other class would stop the run.
-/

namespace SignalLab.Print

/-! ## Arguments -/

/-- The name and the trimmed inner text of an argument written like a call, `name (inner)`. -/
def elementOf? (arg : Text) : Option (Text × Text) := do
  let (name, rest) ← Text.takeIdentifier? arg
  let rest ← Text.afterBlanks? '(' rest
  if rest.getLast? = some ')' then
    let inner := Text.trim rest.dropLast
    if inner.isEmpty || inner.contains '\n' then none else some (name, inner)
  else none

/-- Replaces each occurrence of the word `end`, from left to right. -/
def substituteEnd (value : Text) : Text → Text
  | 'e' :: 'n' :: 'd' :: s => value ++ substituteEnd value s
  | c :: s => c :: substituteEnd value s
  | [] => []

/-- The position, from one, that an index text stands for in a vector of the given length. -/
def position (store : Store) (length : Nat) (index : Text) : Except Error Int :=
  if index = "end".toList then .ok length
  else do
    let x ← (evalText store.scalars (substituteEnd (Text.ofNat length) index)).mapError .evaluation
    (Double.toInteger .towardZero x).mapError .arithmetic

/-- The element of a vector at a position; complex ones cannot be printed. -/
def element (v : Value) (length : Nat) (position : Int) : Except Error Argument :=
  if position < 1 ∨ (length : Int) < position then .error (.argument .outOfBounds)
  else
    match v with
    | .realVector xs => .ok (.ofReal (xs.getD (position.toNat - 1) 0.0))
    | _ => .error (.argument .complexElement)

/-- The variable an argument names an element of, if it is a vector. -/
def vectorElement? (store : Store) (arg : Text) : Option (Value × Nat × Text) := do
  let (name, index) ← elementOf? arg
  let v ← store.get? name
  let length ← v.length?
  some (v, length, index)

/-- An argument that is an expression; a vector is none. -/
def expressionArgument (store : Store) (arg : Text) : Except Error Argument :=
  if (store.get? arg).any Value.isVector then .error (.argument (.vector arg))
  else ((evalText store.scalars arg).mapError .evaluation).map .ofReal

/-- The contents of an argument that is nothing but a quoted literal. -/
def literal? (arg : Text) : Option Text :=
  match Text.takeLiteral? arg with
  | some (value, rest) => if Text.isBlankText rest then some value else none
  | none => none

/-- The value of an argument. -/
def argument (store : Store) (arg : Text) : Except Error Argument :=
  match literal? arg, Shape.lengthOf? ["length", "numel"] arg, vectorElement? store arg with
  | some s, _, _ => .ok (.text s)
  | none, some name, _ =>
    match store.get? name with
    | some v => .ok (.integer (Shape.elementCount (some v)))
    | none => .error (.argument (.undefined name))
  | none, none, some (v, length, index) => do element v length (← position store length index)
  | none, none, none => expressionArgument store arg

/-- The value of an argument, if it has one. -/
def argument? (store : Store) (arg : Text) : Option Argument :=
  (argument store arg).toOption

/-! ## Calls -/

/-- Whether a statement begins with the word `fprintf`. -/
def isCall (statement : Text) : Bool :=
  match Text.after? "fprintf" statement with
  | some rest => Text.isBoundary rest.head?
  | none => false

/-- The text between the parentheses of a call; one line feed may follow it. -/
def callBody? (statement : Text) : Option Text := do
  let rest ← Text.afterCall? "fprintf" statement
  if rest.getLast? = some ')' then some rest.dropLast
  else if rest.getLast? = some '\n' ∧ rest.dropLast.getLast? = some ')' then
    some rest.dropLast.dropLast
  else none

/-- The argument texts behind a format: nothing, or a comma and what is cut at commas. -/
def argumentTexts? (rest : Text) : Option (List Text) :=
  match rest.trim with
  | [] => some []
  | c :: s => if c = ',' then some ((Text.splitTopLevel ',' s).map Text.trim) else none

/-- The format and the argument texts of a call. -/
def call? (statement : Text) : Option (Text × List Text) := do
  let body ← callBody? statement
  let (format, rest) ← Text.takeLiteral? body
  let args ← argumentTexts? rest
  some (format, args)

/-- The lines of a printed text; a line feed at its end opens no further line. -/
def outputLines (s : Text) : List Text :=
  Text.splitAt '\n' (if s.getLast? = some '\n' then s.dropLast else s)

/-- What a format and argument texts write: the arguments are read first, one after the other. -/
def render (store : Store) (format : Text) (args : List Text) : Except Error (List Symbol) := do
  let args ← args.mapM (argument store)
  write (Text.unescape format) args

/-- The classes of errors that a call passes over. -/
def passedOver : List ErrorClass :=
  [.evaluation, .type, .value, .index, .overflow]

/-- The lines a call prints, if it prints anything.  Only characters stand in a line. -/
def lines (store : Store) (statement : Text) : Except Error (Option (List Text)) :=
  match call? statement with
  | none => .ok none
  | some (format, args) => do
    let written ← handle passedOver (render store format args)
    .ok (written.map fun s => outputLines (s.map Symbol.shown))

/-- The lines a call prints, if it prints anything. -/
def lines? (store : Store) (statement : Text) : Option (List Text) :=
  match lines store statement with
  | .ok printed => printed
  | .error _ => none

end SignalLab.Print
