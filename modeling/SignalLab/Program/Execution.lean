import SignalLab.Print.Call
import SignalLab.Program.Plot
import SignalLab.Program.Statement

/-!
# Execution — what a statement does to the state of a program

The state of a program is its variables, what it has printed, the series it has plotted, and the
number of random draws it has made.  `Statement.ofText` says what a statement is: the first of an
assignment, a print call, a plot (a statement that mentions it anywhere), and a clean-up command;
anything else is echoed.  `Statement.exec` is its effect.  A failure leaves the effects so far.
-/

namespace SignalLab

/-- The state of a program. -/
structure State where
  store : Store
  transcript : List Text
  dataset : Dataset
  draws : Nat

/-- The state in which a program begins, after the given number of draws. -/
def State.initial (draws : Nat) : State := ⟨.empty, [], [], draws⟩

/-- A statement. -/
inductive Statement where
  | assign (name : Text) (expr : Text)
  | print (call : Text)
  | plot
  | clearAll
  | clear (names : List Text)
  | clearConsole
  | close
  | echo (text : Text)
  /-- Nothing but blanks. -/
  | blank

namespace Statement

/-! ## Classification -/

/-- The right-hand side behind an equals sign, trimmed; nothing if another equals sign follows.
It is on one line, which a line feed may end. -/
def rightSide? (s : Text) : Option Text :=
  if s.head? = some '=' then none
  else
    let rest := Text.trimLeft s
    let line := if rest.getLast? = some '\n' then rest.dropLast else rest
    if line.contains '\n' then none else some (Text.trim line)

/-- The target and the right-hand side of an assignment. -/
def assignment? (s : Text) : Option (Text × Text) := do
  let (name, rest) ← Text.takeIdentifier? s
  let rest ← Text.afterBlanks? '=' rest
  let expr ← rightSide? rest
  some (name, expr)

/-- The clean-up statement of a command and the words behind it. -/
def cleanup? (command : Text) (names : List Text) : Option Statement :=
  if command = "clear".toList ∨ command = "clearvars".toList then
    some (if names.isEmpty || names.contains "all".toList || names.contains "-all".toList then
      .clearAll else .clear names)
  else if command = "clc".toList then some .clearConsole
  else if command = "close".toList then some .close
  else none

/-- What a statement is that is neither assignment nor print call nor plot. -/
def ofWords (s : Text) : Statement :=
  match Text.words s with
  | [] => .blank
  | command :: _ =>
    (cleanup? command (Text.words (Text.substitute ',' [' '] s)).tail).getD (.echo s)

/-- What a statement is. -/
def ofText (s : Text) : Statement :=
  match assignment? s with
  | some (name, expr) => .assign name expr
  | none =>
    if Print.isCall s then .print s
    else if Text.includes "plot" s then .plot
    else ofWords s

/-! ## Effects -/

/-- The number of characters of a transcript. -/
def transcriptSize : List Text → Nat
  | [] => 0
  | line :: lines => line.length + transcriptSize lines

/-- The transcript with a line more, unless that is too much. -/
def emit (s : Settings) (transcript : List Text) (line : Text) : Except Breach (List Text) :=
  if s.maxOutput < (transcriptSize transcript + line.length : Nat) then .error .output
  else .ok (transcript ++ [line])

/-- The state with lines more, up to the first that is too much. -/
def emitAll (s : Settings) (st : State) : List Text → State × Option Failure
  | [] => (st, none)
  | line :: lines =>
    match emit s st.transcript line with
    | .ok transcript => emitAll s { st with transcript } lines
    | .error breach => (st, some (.breach breach))

/-- The effect of an assignment. -/
def assignTo (s : Settings) (draw : Nat → Float) (st : State) (name expr : Text) :
    State × Option Failure :=
  match evaluateExpression s draw st.draws st.store expr with
  | .ok drawn =>
    ({ st with store := st.store.set name drawn.value, draws := st.draws + drawn.draws }, none)
  | .error failure => (st, some failure)

/-- The line printed when the console is cleared. -/
def clearedLine : Text := "Console cleared"

/-- The effect of a statement, and why it failed if it did. -/
def exec (s : Settings) (draw : Nat → Float) (st : State) : Statement → State × Option Failure
  | assign name expr => assignTo s draw st name expr
  | print call =>
    match Print.lines st.store call with
    | .ok printed => emitAll s st (printed.getD [])
    | .error e => (st, some (.unresolved (.printError e.message)))
  | plot =>
    let (dataset, fault) := Plot.update s st.store st.dataset
    ({ st with dataset }, fault.map .arithmetic)
  | clearAll => ({ st with store := st.store.clear }, none)
  | clear names => ({ st with store := names.foldl Store.delete st.store }, none)
  | clearConsole => emitAll s st [clearedLine]
  | close => (st, none)
  | echo text => emitAll s st [text]
  | blank => (st, some (.arithmetic .index))

/-- The effect of a written statement. -/
def run (s : Settings) (draw : Nat → Float) (st : State) (text : Text) : State × Option Failure :=
  (ofText text).exec s draw st

end Statement

end SignalLab
