import SignalLab.Expression.Evaluation

/-!
# Errors of print calls — what can be wrong with an argument or a format

An argument may have no value, a directive may be no notation or not suit its argument, and a number
may be beyond what a conversion can take.  Every error has a class, and a handler goes by classes: it
lists those that it passes over (`handle`).  Errors of formats have no wording of their own here: all
their classes are passed over, so that nothing ever shows one.
-/

namespace SignalLab

/-- The classes of errors that handlers tell apart. -/
inductive ErrorClass where
  | evaluation
  | type
  | value
  | index
  | overflow
  | zeroDivision
  deriving DecidableEq, Repr

/-- The name of a class of errors. -/
def ErrorClass.label : ErrorClass → Text
  | .evaluation => "EvalError"
  | .type => "TypeError"
  | .value => "ValueError"
  | .index => "IndexError"
  | .overflow => "OverflowError"
  | .zeroDivision => "ZeroDivisionError"

/-- The class of a fault. -/
def Fault.errorClass : Fault → ErrorClass
  | .integerDivision | .realDivision | .complexDivision | .zeroToNegativePower
  | .zeroToComplexPower => .zeroDivision
  | .powerRange | .complexPowerRange | .integerRange | .quotientRange | .infinityToInteger
  | .range | .modulusRange => .overflow
  | .nanToInteger | .domain => .value
  | .complexArgument | .complexTruncation => .type
  | .index => .index

namespace Print

/-- Why an argument that is no expression has no value. -/
inductive ArgumentError where
  /-- The length of a variable that is not bound. -/
  | undefined (name : Text)
  /-- A position that a vector does not have. -/
  | outOfBounds
  | complexElement
  /-- A vector as a whole. -/
  | vector (name : Text)
  deriving DecidableEq, Repr

/-- The wording of an error of an argument. -/
def ArgumentError.message : ArgumentError → Text
  | .undefined name => "Undefined variable '" ++ name ++ ['\'']
  | .outOfBounds => "Index out of bounds"
  | .complexElement => "Cannot print a complex element"
  | .vector name => '\'' :: name ++ "' is a vector"

/-- Why a format does not take its arguments. -/
inductive FormatError where
  /-- A directive that asks for an argument by its name. -/
  | mapping
  | widthTooBig
  | precisionTooBig
  /-- A directive that the format ends in. -/
  | incomplete
  /-- A letter that is no conversion. -/
  | unsupported (letter : Char)
  | missingArgument
  | furtherArguments
  /-- A star for an argument that is no integer. -/
  | starType
  /-- A star for an integer beyond the largest width or precision. -/
  | starRange
  /-- A text for a conversion of numbers. -/
  | numberRequired
  /-- Anything else for a conversion of integers only. -/
  | integerRequired
  /-- A precision beyond the largest one of integers. -/
  | integerPrecision
  /-- Neither a code point nor a text of one character. -/
  | characterRequired
  /-- An integer that is no code point. -/
  | characterRange
  deriving DecidableEq, Repr

/-- The class of an error of a format. -/
def FormatError.errorClass : FormatError → ErrorClass
  | .widthTooBig | .precisionTooBig | .incomplete | .unsupported _ => .value
  | .mapping | .missingArgument | .furtherArguments | .starType | .numberRequired
  | .integerRequired | .characterRequired => .type
  | .starRange | .integerPrecision | .characterRange => .overflow

/-- Why a print call writes nothing. -/
inductive Error where
  /-- An expression without a value. -/
  | evaluation (error : EvalError)
  | argument (error : ArgumentError)
  | format (error : FormatError)
  /-- A conversion between integers and doubles that has no result. -/
  | arithmetic (fault : Fault)
  deriving DecidableEq, Repr

namespace Error

/-- The class of an error. -/
def errorClass : Error → ErrorClass
  | .evaluation _ => .evaluation
  | .argument _ => .evaluation
  | .format e => e.errorClass
  | .arithmetic fault => fault.errorClass

/-- The wording of an error, or else the name of its class. -/
def message : Error → Text
  | .evaluation e => e.message
  | .argument e => e.message
  | .format e => e.errorClass.label
  | .arithmetic fault => fault.message

end Error

/-- A result, or nothing for an error of a listed class; any other error stays one. -/
def handle {α : Type} (listed : List ErrorClass) : Except Error α → Except Error (Option α)
  | .ok a => .ok (some a)
  | .error e => if e.errorClass ∈ listed then .ok none else .error e

end Print

end SignalLab
