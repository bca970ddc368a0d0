import SignalLab.Expression.Token

/-!
# Expression trees — the shape of a parsed expression

The constructs that the evaluator works with have their own constructors.  Every other construct
of the expression language is an `other` node: its kind, and the expressions it is made of.
-/

namespace SignalLab.Expression

/-- The kinds of construct that have no value. -/
inductive Construct where
  | boolOp | namedExpr | lambda | ifExp | dict | set | listComp | setComp | dictComp
  | generatorExp | await | yield | yieldFrom | compare | joinedStr | member | subscript
  | starred | list | tuple | slice
  deriving DecidableEq, Repr

/-- The name of a construct in messages. -/
def Construct.label : Construct → Text
  | .boolOp => "BoolOp"
  | .namedExpr => "NamedExpr"
  | .lambda => "Lambda"
  | .ifExp => "IfExp"
  | .dict => "Dict"
  | .set => "Set"
  | .listComp => "ListComp"
  | .setComp => "SetComp"
  | .dictComp => "DictComp"
  | .generatorExp => "GeneratorExp"
  | .await => "Await"
  | .yield => "Yield"
  | .yieldFrom => "YieldFrom"
  | .compare => "Compare"
  | .joinedStr => "JoinedStr"
  | .member => "Attribute"
  | .subscript => "Subscript"
  | .starred => "Starred"
  | .list => "List"
  | .tuple => "Tuple"
  | .slice => "Slice"

/-- Binary operators; the first five have a value. -/
inductive BinaryOp where
  | add | sub | mul | div | pow
  | floorDiv | mod | matMult | leftShift | rightShift | bitOr | bitAnd
  deriving DecidableEq, Repr

/-- The name of a binary operator in messages. -/
def BinaryOp.label : BinaryOp → Text
  | .add => "Add"
  | .sub => "Sub"
  | .mul => "Mult"
  | .div => "Div"
  | .pow => "Pow"
  | .floorDiv => "FloorDiv"
  | .mod => "Mod"
  | .matMult => "MatMult"
  | .leftShift => "LShift"
  | .rightShift => "RShift"
  | .bitOr => "BitOr"
  | .bitAnd => "BitAnd"

/-- Unary operators; the first two have a value. -/
inductive UnaryOp where
  | plus | minus | invert | not
  deriving DecidableEq, Repr

/-- Literals.  Texts, truth values, imaginary numbers and the like are not numeric. -/
inductive Literal where
  | integer (n : Nat)
  | real (x : Float)
  | notNumeric

/-- An expression. -/
inductive Tree where
  | literal (l : Literal)
  | name (id : Text)
  | unary (op : UnaryOp) (operand : Tree)
  | binary (op : BinaryOp) (left right : Tree)
  | call (callee : Tree) (args : List Tree) (keywords : List Tree)
  | other (kind : Construct) (parts : List Tree)

end SignalLab.Expression
