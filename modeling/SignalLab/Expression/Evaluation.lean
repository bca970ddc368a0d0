import SignalLab.Expression.Parser
import SignalLab.Number.Elementary
import SignalLab.Text.Keyed

/-!
# Evaluation — the double an expression stands for

An expression is read in the notation of the lab programs: `^` is the power, and the elementwise
operators `.^ .* ./` are the plain ones.  Its tree is evaluated against an environment of named
doubles; numbers, names, signs, the five arithmetic operations and calls of a fixed table of
functions have a value, everything else is refused where it is met.  Operands are evaluated from
left to right before their operation is looked at.

`evalText` gives the value or the error; `evaluate` applies a fallback policy, under which a failure
may count as zero.
-/

namespace SignalLab

namespace Expression

/-! ## Functions and constants -/

/-- The functions an expression may call. -/
inductive Function where
  | sqrt | abs | exp | log | log10 | log2 | floor | ceil | round | fix | mod | rem
  deriving DecidableEq, Repr

/-- The functions by name. -/
def functionTable : List (String × Function) :=
  [("sqrt", .sqrt), ("abs", .abs), ("exp", .exp), ("log", .log), ("log10", .log10),
   ("log2", .log2), ("floor", .floor), ("ceil", .ceil), ("round", .round), ("fix", .fix),
   ("mod", .mod), ("rem", .rem)]

/-- The constants by name. -/
def constantTable : List (String × Float) :=
  [("pi", Double.pi), ("e", Double.euler), ("eps", Double.epsilon), ("Inf", Double.infinity),
   ("inf", Double.infinity)]

/-- The entry of a table under a name. -/
def lookup? {α : Type} (table : List (String × α)) (id : Text) : Option α :=
  (table.find? fun (name, _) => name.toList = id).map (·.2)

/-- The function with the given name. -/
def function? (id : Text) : Option Function := lookup? functionTable id

/-- The constant with the given name. -/
def constant? (id : Text) : Option Float := lookup? constantTable id

/-- The doubles that names are bound to. -/
abbrev Environment := Keyed Float

/-! ## Failures -/

/-- A call with a number of arguments that the function does not take. -/
structure ArityFault where
  function : Function
  given : Nat
  deriving DecidableEq, Repr

/-- The name a function of one argument goes by in messages about its arguments. -/
def Function.callName : Function → Text
  | .sqrt => "math.sqrt"
  | .abs => "abs"
  | .exp => "math.exp"
  | .log => "math.log"
  | .log10 => "math.log10"
  | .log2 => "math.log2"
  | .floor => "math.floor"
  | .ceil => "math.ceil"
  | .round => "<lambda>"
  | .fix => "math.trunc"
  | .mod => "<lambda>"
  | .rem => "fmod"

/-- The wording of an arity fault. -/
def ArityFault.message (e : ArityFault) : Text :=
  let given := Text.ofNat e.given
  match e.function with
  | .log => "math.log requires 1 to 2 arguments"
  | .rem => "fmod expected 2 arguments, got " ++ given
  | .round =>
    if e.given = 0 then "<lambda>() missing 1 required positional argument: 'x'"
    else "<lambda>() takes 1 positional argument but " ++ given ++ " were given"
  | .mod =>
    if e.given = 0 then "<lambda>() missing 2 required positional arguments: 'a' and 'b'"
    else if e.given = 1 then "<lambda>() missing 1 required positional argument: 'b'"
    else "<lambda>() takes 2 positional arguments but " ++ given ++ " were given"
  | f => f.callName ++ "() takes exactly one argument (" ++ given ++ " given)"

/-- Why an expression has no value. -/
inductive Cause where
  | syntaxError
  | complexResult
  | undefinedVariable (id : Text)
  | unsupportedExpression (kind : Construct)
  | unsupportedBinary (op : BinaryOp)
  | unsupportedUnary
  | unsupportedCallTarget
  | unsupportedFunction (id : Text)
  | notNumeric
  | exponentTooLarge
  | arity (fault : ArityFault)
  | arithmetic (fault : Fault)
  deriving DecidableEq, Repr

/-- The exponent of a power must not exceed this in magnitude. -/
def maxExponent : Nat := 64

/-- The wording of a cause. -/
def Cause.message : Cause → Text
  | .syntaxError => "Syntax error in expression"
  | .complexResult => "Complex result"
  | .undefinedVariable id => "Undefined variable '" ++ id ++ ['\'']
  | .unsupportedExpression kind => "Unsupported expression: " ++ kind.label
  | .unsupportedBinary op => "Unsupported binary op " ++ op.label
  | .unsupportedUnary => "Unsupported unary op"
  | .unsupportedCallTarget => "Unsupported call target"
  | .unsupportedFunction id => "Unsupported function '" ++ id ++ ['\'']
  | .notNumeric => "Only numeric literals are supported"
  | .exponentTooLarge => "Exponent too large; max " ++ Text.ofNat maxExponent
  | .arity fault => fault.message
  | .arithmetic fault => fault.message

/-- Whether a cause concerns the expression as a whole or its numbers, and not one of its parts;
such errors quote the expression. -/
def Cause.quotesExpression : Cause → Bool
  | .syntaxError | .complexResult | .arity _ | .arithmetic _ => true
  | _ => false

/-! ## Trees -/

/-- The value of a function at its arguments. -/
def Function.apply (f : Function) (args : List Quantity) : Except Cause Quantity :=
  match f, args with
  | .sqrt, [x] => lift (x.onReal Double.sqrt)
  | .abs, [x] => lift x.abs
  | .exp, [x] => lift (x.onReal Double.exp)
  | .log, [x] => lift ((x.logarithm Float.log).map .real)
  | .log, [x, base] => lift (Quantity.logarithmTo base x)
  | .log10, [x] => lift ((x.logarithm Float.log10).map .real)
  | .log2, [x] => lift ((x.logarithm Float.log2).map .real)
  | .floor, [x] => lift ((x.roundTo .down).map .integer)
  | .ceil, [x] => lift ((x.roundTo .up).map .integer)
  | .round, [x] => lift x.roundHalfAway
  | .fix, [x] => lift (x.truncate.map .integer)
  | .mod, [a, b] => lift (a.modulo b)
  | .rem, [a, b] => lift (a.remainder b)
  | f, args => .error (.arity ⟨f, args.length⟩)
where
  /-- A fault of the arithmetic is a cause. -/
  lift (r : Except Fault Quantity) : Except Cause Quantity := r.mapError .arithmetic

/-- The value of a binary operation. -/
def BinaryOp.apply (op : BinaryOp) (a b : Quantity) : Except Cause Quantity :=
  match op with
  | .add => (a.add b).mapError .arithmetic
  | .sub => (a.sub b).mapError .arithmetic
  | .mul => (a.mul b).mapError .arithmetic
  | .div => (a.div b).mapError .arithmetic
  | .pow => do
    let size ← b.abs.mapError .arithmetic
    if size.exceeds maxExponent then .error .exponentTooLarge
    else (a.pow b).mapError .arithmetic
  | op => .error (.unsupportedBinary op)

/-- The value of a unary operation. -/
def UnaryOp.apply (op : UnaryOp) (a : Quantity) : Except Cause Quantity :=
  match op with
  | .plus => .ok a
  | .minus => .ok a.neg
  | _ => .error .unsupportedUnary

/-- The value of a literal. -/
def Literal.value : Literal → Except Cause Quantity
  | .integer n => .ok (.integer n)
  | .real x => .ok (.real x)
  | .notNumeric => .error .notNumeric

/-- The value of a name: what the environment binds it to, or else a constant. -/
def nameValue (env : Environment) (id : Text) : Except Cause Quantity :=
  match Keyed.find? id env with
  | some x => .ok (.real x)
  | none =>
    match constant? id with
    | some x => .ok (.real x)
    | none => .error (.undefinedVariable id)

/-- The function a call names. -/
def calledFunction (callee : Tree) (keywords : List Tree) : Except Cause Function :=
  match callee, keywords with
  | .name id, [] =>
    match function? id with
    | some f => .ok f
    | none => .error (.unsupportedFunction id)
  | _, _ => .error .unsupportedCallTarget

mutual

/-- The value of a tree. -/
def Tree.eval (env : Environment) : Tree → Except Cause Quantity
  | .literal l => l.value
  | .name id => nameValue env id
  | .unary op t => do op.apply (← t.eval env)
  | .binary op l r => do
    let a ← l.eval env
    let b ← r.eval env
    op.apply a b
  | .call callee args keywords => do
    let f ← calledFunction callee keywords
    f.apply (← evalAll env args)
  | .other kind _ => .error (.unsupportedExpression kind)

/-- The values of trees, from left to right. -/
def evalAll (env : Environment) : List Tree → Except Cause (List Quantity)
  | [] => .ok []
  | t :: ts => do
    let x ← t.eval env
    let xs ← evalAll env ts
    .ok (x :: xs)

end

/-! ## Texts -/

/-- The text with the plain operators in place of the elementwise ones and of `^`. -/
def plainOperators (s : Text) : Text :=
  Text.substitute '^' ['*', '*']
    (Text.substitutePair '.' '/' '/'
      (Text.substitutePair '.' '*' '*'
        (Text.substitutePair '.' '^' '^' s)))

/-- The tree of a trimmed text in the notation of the lab programs. -/
def parseText? (s : Text) : Option Tree :=
  parse? (plainOperators s.trim)

/-- The double a tree stands for. -/
def Tree.value (env : Environment) (t : Tree) : Except Cause Float := do
  match ← t.eval env with
  | .complex _ => .error .complexResult
  | x => x.toReal.mapError .arithmetic

/-- The double a text stands for, or the cause why there is none. -/
def valueOf (env : Environment) (s : Text) : Except Cause Float :=
  match parseText? s with
  | none => .error .syntaxError
  | some t => t.value env

end Expression

/-- A failed evaluation: the cause, and the expression if the cause concerns all of it. -/
structure EvalError where
  cause : Expression.Cause
  text : Option Text
  deriving DecidableEq, Repr

/-- The wording of a failed evaluation. -/
def EvalError.message (e : EvalError) : Text :=
  e.cause.message

/-- The double a text stands for. -/
def evalText (env : Expression.Environment) (s : Text) : Except EvalError Float :=
  (Expression.valueOf env s).mapError fun cause =>
    ⟨cause, if cause.quotesExpression then some s else none⟩

/-- What a failed evaluation counts as. -/
inductive FallbackPolicy where
  /-- It counts as zero. -/
  | zero
  /-- It is an error. -/
  | raise
  deriving DecidableEq, Repr

/-- The double a text stands for under a fallback policy. -/
def evaluate (policy : FallbackPolicy) (env : Expression.Environment) (s : Text) :
    Except EvalError Float :=
  match evalText env s, policy with
  | .error _, .zero => .ok 0.0
  | result, _ => result

end SignalLab
