import SignalLab.Expression.Evaluation

/-!
# Formulas — arithmetic with every operation in parentheses

A formula is what a lab program writes on the right of an assignment when it leaves nothing to the
binding powers: numbers, names, signs, operations in either notation, and calls.  `Formula.eval` is
its value by the rules of the operations alone; it knows of no text, no token and no tree.

`Formula.write` is the text of a formula.  It is written with one spelling per operator, so that the
text of the program and the text behind the rewriting of its operators are two cases of one
function.
-/

namespace SignalLab.Expression

/-! ## Numbers, names and operators -/

/-- A number with as many digits as a numeral may have. -/
structure Numeral where
  value : Nat
  length_le : (Text.ofNat value).length ≤ Text.maxIntegerDigits

/-- Letters, digits and the underscore. -/
def isIdentifierChar (c : Char) : Bool :=
  Text.isAsciiNameStart c || c.isDigit

/-- A name of letters, digits and underscores that is no reserved word. -/
structure Identifier where
  first : Char
  others : Text
  first_start : Text.isAsciiNameStart first = true
  others_chars : others.all isIdentifierChar = true
  not_reserved : keyword? (first :: others) = none

/-- The characters of a name. -/
def Identifier.text (id : Identifier) : Text :=
  id.first :: id.others

/-- The signs. -/
inductive Sign where
  | plus | minus
  deriving DecidableEq, Repr

/-- The operators between two operands, the elementwise ones apart from the others. -/
inductive Operator where
  | plus | minus | times | divide | power | eachTimes | eachDivide | eachPower
  deriving DecidableEq, Repr

/-- The character of a sign. -/
def Sign.char : Sign → Char
  | .plus => '+'
  | .minus => '-'

/-- The token of a sign. -/
def Sign.symbol : Sign → Symbol
  | .plus => .plus
  | .minus => .minus

/-- The operation of a sign. -/
def Sign.op : Sign → UnaryOp
  | .plus => .plus
  | .minus => .minus

/-- The operator as a program has it. -/
def Operator.written : Operator → Text
  | .plus => ['+']
  | .minus => ['-']
  | .times => ['*']
  | .divide => ['/']
  | .power => ['^']
  | .eachTimes => ['.', '*']
  | .eachDivide => ['.', '/']
  | .eachPower => ['.', '^']

/-- The operator that is read in its place. -/
def Operator.plain : Operator → Text
  | .plus => ['+']
  | .minus => ['-']
  | .times | .eachTimes => ['*']
  | .divide | .eachDivide => ['/']
  | .power | .eachPower => ['*', '*']

/-- The token of an operator. -/
def Operator.symbol : Operator → Symbol
  | .plus => .plus
  | .minus => .minus
  | .times | .eachTimes => .star
  | .divide | .eachDivide => .slash
  | .power | .eachPower => .doubleStar

/-- The operation of an operator. -/
def Operator.op : Operator → BinaryOp
  | .plus => .add
  | .minus => .sub
  | .times | .eachTimes => .mul
  | .divide | .eachDivide => .div
  | .power | .eachPower => .pow

/-! ## Formulas -/

/-- A formula. -/
inductive Formula where
  | number (n : Numeral)
  | name (id : Identifier)
  | signed (sign : Sign) (e : Formula)
  | operation (o : Operator) (l r : Formula)
  | call (f : Identifier) (args : List Formula)

namespace Formula

mutual

/-- The value of a formula, operands from left to right before their operation. -/
def eval (env : Environment) : Formula → Except Cause Quantity
  | number n => .ok (.integer n.value)
  | name id => nameValue env id.text
  | signed sign e => do sign.op.apply (← e.eval env)
  | operation o l r => do
    let a ← l.eval env
    let b ← r.eval env
    o.op.apply a b
  | call f args =>
    match function? f.text with
    | some g => do g.apply (← evalArguments env args)
    | none => .error (.unsupportedFunction f.text)

/-- The values of arguments. -/
def evalArguments (env : Environment) : List Formula → Except Cause (List Quantity)
  | [] => .ok []
  | e :: es => do
    let x ← e.eval env
    let xs ← evalArguments env es
    .ok (x :: xs)

end

/-- The double a formula stands for, unless its value is complex or too large. -/
def value (env : Environment) (e : Formula) : Except Cause Float := do
  match ← e.eval env with
  | .complex _ => .error .complexResult
  | x => x.toReal.mapError .arithmetic

mutual

/-- How deep the brackets of a formula are nested. -/
def nesting : Formula → Nat
  | number _ => 0
  | name _ => 0
  | signed _ e => e.nesting + 1
  | operation _ l r => max l.nesting r.nesting + 1
  | call _ args => nestingOfArguments args + 1

/-- How deep the brackets of arguments are nested. -/
def nestingOfArguments : List Formula → Nat
  | [] => 0
  | e :: es => max e.nesting (nestingOfArguments es)

end

/-! ## Texts -/

/-- Blanks between two parts of a formula. -/
def blanks (gap : Nat) : Text :=
  List.replicate gap ' '

/-- What stands between an argument and those behind it. -/
def separator (gap : Nat) (behind : List Formula) : Text :=
  if behind.isEmpty then [] else ',' :: blanks gap

mutual

/-- The text of a formula, with the given spelling of the operators and as many blanks as given
around an operator and behind a comma. -/
def write (spelling : Operator → Text) (gap : Nat) : Formula → Text
  | number n => Text.ofNat n.value
  | name id => id.text
  | signed sign e => '(' :: sign.char :: (e.write spelling gap ++ [')'])
  | operation o l r =>
    '(' :: (l.write spelling gap ++ (blanks gap ++ (spelling o ++ (blanks gap ++
      (r.write spelling gap ++ [')'])))))
  | call f args => f.text ++ '(' :: (writeArguments spelling gap args ++ [')'])

/-- The text of arguments. -/
def writeArguments (spelling : Operator → Text) (gap : Nat) : List Formula → Text
  | [] => []
  | e :: es => e.write spelling gap ++ (separator gap es ++ writeArguments spelling gap es)

end

/-- The text of a formula in a program. -/
def text (gap : Nat) (e : Formula) : Text :=
  e.write Operator.written gap

/-! ## Tokens and trees -/

/-- The token between an argument and those behind it. -/
def separatorTokens (behind : List Formula) : List Token :=
  if behind.isEmpty then [] else [.symbol .comma]

mutual

/-- The tokens of a formula. -/
def tokens : Formula → List Token
  | number n => [.integer n.value]
  | name id => [.name id.text]
  | signed sign e =>
    .symbol .openParen :: .symbol sign.symbol :: (e.tokens ++ [.symbol .closeParen])
  | operation o l r =>
    .symbol .openParen :: (l.tokens ++ (.symbol o.symbol :: (r.tokens ++ [.symbol .closeParen])))
  | call f args =>
    .name f.text :: .symbol .openParen :: (argumentTokens args ++ [.symbol .closeParen])

/-- The tokens of arguments. -/
def argumentTokens : List Formula → List Token
  | [] => []
  | e :: es => e.tokens ++ (separatorTokens es ++ argumentTokens es)

end

mutual

/-- The tree of a formula. -/
def tree : Formula → Tree
  | number n => .literal (.integer n.value)
  | name id => .name id.text
  | signed sign e => .unary sign.op e.tree
  | operation o l r => .binary o.op l.tree r.tree
  | call f args => .call (.name f.text) (argumentTrees args) []

/-- The trees of arguments. -/
def argumentTrees : List Formula → List Tree
  | [] => []
  | e :: es => e.tree :: argumentTrees es

end

mutual

/-- A formula has the value of its tree. -/
theorem eval_tree (env : Environment) (e : Formula) : e.tree.eval env = e.eval env := by
  cases e with
  | number n => rw [tree, Tree.eval, eval, Literal.value]
  | name id => rw [tree, Tree.eval, eval]
  | signed sign e => rw [tree, Tree.eval, eval, eval_tree env e]
  | operation o l r => rw [tree, Tree.eval, eval, eval_tree env l, eval_tree env r]
  | call f args =>
      rw [tree, Tree.eval, eval, evalAll_argumentTrees env args, calledFunction]
      cases function? f.text with
      | none => rfl
      | some g => rfl

theorem evalAll_argumentTrees (env : Environment) (es : List Formula) :
    evalAll env (argumentTrees es) = evalArguments env es := by
  cases es with
  | nil => rw [argumentTrees, evalAll, evalArguments]
  | cons e es =>
      rw [argumentTrees, evalAll, evalArguments, eval_tree env e, evalAll_argumentTrees env es]

end

end Formula

end SignalLab.Expression
