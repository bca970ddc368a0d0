import SignalLab.Expression.Lexer
import SignalLab.Expression.Tree

/-!
# Parser — the tree of an expression's tokens

Operators are read by binding power: `operand` reads what begins an expression and `extend` the
operators and postfixes that follow, as long as they bind at least as strongly as asked.  Brackets,
calls, subscripts, comprehensions and parameter lists have a function each.  A chain of comparisons
or of `and`, `or` becomes a nest of binary nodes.

All functions take a bound for the depth of their calls.  Between two tokens read there are never
more than a few calls, so a small multiple of the number of tokens is enough; `parse?` supplies it.
-/

namespace SignalLab.Expression

/-! ## Binding powers -/

/-- Binding powers, from the loosest to the tightest. -/
def powerExpression : Nat := 0

@[inherit_doc powerExpression]
def powerOr : Nat := 1

@[inherit_doc powerExpression]
def powerAnd : Nat := 2

@[inherit_doc powerExpression]
def powerNot : Nat := 3

@[inherit_doc powerExpression]
def powerCompare : Nat := 4

@[inherit_doc powerExpression]
def powerBitOr : Nat := 5

@[inherit_doc powerExpression]
def powerUnary : Nat := 11

@[inherit_doc powerExpression]
def powerPower : Nat := 12

@[inherit_doc powerExpression]
def powerPostfix : Nat := 14

/-- The operator a symbol is between two operands, its binding power, and that of its right
operand. -/
def binary? : Symbol → Option (BinaryOp × Nat × Nat)
  | .bar => some (.bitOr, powerBitOr, 6)
  | .amp => some (.bitAnd, 7, 8)
  | .shiftLeft => some (.leftShift, 8, 9)
  | .shiftRight => some (.rightShift, 8, 9)
  | .plus => some (.add, 9, 10)
  | .minus => some (.sub, 9, 10)
  | .star => some (.mul, 10, powerUnary)
  | .slash => some (.div, 10, powerUnary)
  | .doubleSlash => some (.floorDiv, 10, powerUnary)
  | .percent => some (.mod, 10, powerUnary)
  | .at => some (.matMult, 10, powerUnary)
  | .doubleStar => some (.pow, powerPower, powerUnary)
  | _ => none

/-- The unary operator a symbol is before an operand. -/
def unary? : Symbol → Option UnaryOp
  | .plus => some .plus
  | .minus => some .minus
  | .tilde => some .invert
  | _ => none

/-- What follows a comparison operator at the front. -/
def afterComparison? : List Token → Option (List Token)
  | .symbol .equal :: ts | .symbol .notEqual :: ts | .symbol .less :: ts
  | .symbol .lessEqual :: ts | .symbol .greater :: ts | .symbol .greaterEqual :: ts => some ts
  | .keyword .kwIn :: ts => some ts
  | .keyword .kwNot :: .keyword .kwIn :: ts => some ts
  | .keyword .kwIs :: .keyword .kwNot :: ts => some ts
  | .keyword .kwIs :: ts => some ts
  | _ => none

/-! ## Looking ahead -/

/-- Whether a name with a walrus follows. -/
def beginsNamed : List Token → Bool
  | .name _ :: .symbol .walrus :: _ => true
  | _ => false

/-- Whether a comprehension clause follows. -/
def beginsClause : List Token → Bool
  | .keyword .kwFor :: _ => true
  | .keyword .kwAsync :: .keyword .kwFor :: _ => true
  | _ => false

/-- Whether a tree is a starred expression. -/
def Tree.isStarred : Tree → Bool
  | .other .starred _ => true
  | _ => false

/-- What follows the given symbol at the front. -/
def expect (s : Symbol) : List Token → Option (List Token)
  | .symbol t :: ts => if s = t then some ts else none
  | _ => none

mutual

/-- Whether a tree can be bound by a comprehension. -/
def Tree.isTarget : Tree → Bool
  | .name _ => true
  | .other .member _ => true
  | .other .subscript _ => true
  | .other .tuple parts => areTargets parts
  | .other .list parts => areTargets parts
  | _ => false

/-- Whether all trees can be bound, starred or not. -/
def areTargets : List Tree → Bool
  | [] => true
  | .other .starred [t] :: ts => t.isTarget && areTargets ts
  | t :: ts => t.isTarget && areTargets ts

end

/-! ## Parameter lists -/

/-- How far a parameter list has been read. -/
structure ParameterState where
  /-- A parameter has been read. -/
  some? : Bool := false
  /-- A parameter with a default has been read. -/
  default? : Bool := false
  /-- The mark that ends the positional parameters has been read. -/
  slash? : Bool := false
  /-- The mark that begins the keyword parameters has been read. -/
  star? : Bool := false
  /-- A keyword parameter has to follow. -/
  needed? : Bool := false

/-! ## The grammar -/

mutual

/-- Reads an expression whose operators bind at least with `power`. -/
def expression (fuel power : Nat) (ts : List Token) : Option (Tree × List Token) :=
  match fuel with
  | 0 => none
  | n + 1 => do
    let (left, ts) ← operand n power ts
    extend n power left ts

/-- Reads what begins an expression: a prefix operator with its operand, or an atom. -/
def operand (fuel power : Nat) (ts : List Token) : Option (Tree × List Token) :=
  match fuel with
  | 0 => none
  | n + 1 =>
    match ts with
    | .integer k :: ts => some (.literal (.integer k), ts)
    | .real x :: ts => some (.literal (.real x), ts)
    | .imaginary :: ts => some (.literal .notNumeric, ts)
    | .name id :: ts => some (.name id, ts)
    | .keyword .kwTrue :: ts | .keyword .kwFalse :: ts | .keyword .kwNone :: ts
    | .symbol .ellipsis :: ts => some (.literal .notNumeric, ts)
    | .symbol .openParen :: ts => group n ts
    | .symbol .openBracket :: ts => list n ts
    | .symbol .openBrace :: ts => braces n ts
    | .keyword .kwNot :: ts =>
      if powerNot < power then none
      else do
        let (t, ts) ← expression n powerNot ts
        some (.unary .not t, ts)
    | .keyword .kwAwait :: ts =>
      if powerPower < power then none
      else do
        let (t, ts) ← expression n powerPostfix ts
        some (.other .await [t], ts)
    | .keyword .kwLambda :: ts =>
      if powerExpression < power then none
      else do
        let (defaults, ts) ← parameters n {} ts
        let (body, ts) ← expression n powerExpression ts
        some (.other .lambda (defaults ++ [body]), ts)
    | .symbol s :: ts =>
      match unary? s with
      | some op =>
        if powerUnary < power then none
        else do
          let (t, ts) ← expression n powerUnary ts
          some (.unary op t, ts)
      | none => none
    | .text :: _ | .bytes :: _ | .template _ :: _ => texts n none ts
    | _ => none

/-- Reads the operators and postfixes behind `left`. -/
def extend (fuel power : Nat) (left : Tree) (ts : List Token) : Option (Tree × List Token) :=
  match fuel with
  | 0 => none
  | n + 1 =>
    match ts with
    | .symbol .dot :: .name id :: ts => extend n power (.other .member [left, .name id]) ts
    | .symbol .openParen :: ts => do
      let (args, keywords, ts) ← arguments n true 0 ts
      extend n power (.call left args keywords) ts
    | .symbol .openBracket :: ts => do
      let (parts, ts) ← slices n ts
      extend n power (.other .subscript (left :: parts)) ts
    | .keyword .kwIf :: rest =>
      if powerExpression < power then some (left, ts)
      else do
        let (test, ts) ← expression n powerOr rest
        match ts with
        | .keyword .kwElse :: ts =>
          let (last, ts) ← expression n powerExpression ts
          some (.other .ifExp [test, left, last], ts)
        | _ => none
    | .keyword .kwOr :: rest =>
      if powerOr < power then some (left, ts)
      else do
        let (right, ts) ← expression n powerAnd rest
        extend n power (.other .boolOp [left, right]) ts
    | .keyword .kwAnd :: rest =>
      if powerAnd < power then some (left, ts)
      else do
        let (right, ts) ← expression n powerNot rest
        extend n power (.other .boolOp [left, right]) ts
    | ts =>
      match afterComparison? ts with
      | some rest =>
        if powerCompare < power then some (left, ts)
        else do
          let (right, ts) ← expression n powerBitOr rest
          extend n power (.other .compare [left, right]) ts
      | none =>
        match ts with
        | .symbol s :: rest =>
          match binary? s with
          | some (op, strength, inner) =>
            if strength < power then some (left, ts)
            else do
              let (right, ts) ← expression n inner rest
              extend n power (.binary op left right) ts
          | none => some (left, ts)
        | ts => some (left, ts)

/-- Reads adjacent text literals.  `bytes` says what was read before: nothing, bytes or text. -/
def texts (fuel : Nat) (bytes : Option Bool) (ts : List Token) : Option (Tree × List Token) :=
  match fuel with
  | 0 => none
  | n + 1 =>
    match ts with
    | .bytes :: ts => if bytes = some false then none else texts n (some true) ts
    | .text :: ts => if bytes = some true then none else texts n (some false) ts
    | .template fields :: ts =>
      if bytes = some true then none
      else do
        let parts ← fieldTrees n fields
        let (rest, ts) ← texts n (some false) ts
        match rest with
        | .other .joinedStr more => some (.other .joinedStr (parts ++ more), ts)
        | _ => some (.other .joinedStr parts, ts)
    | ts => some (.literal .notNumeric, ts)

/-- The trees of the fields of a template text. -/
def fieldTrees (fuel : Nat) (fields : List (List Token)) : Option (List Tree) :=
  match fuel with
  | 0 => none
  | n + 1 =>
    match fields with
    | [] => some []
    | field :: fields => do
      let (t, rest) ← expression n powerExpression field
      if rest.isEmpty then
        let others ← fieldTrees n fields
        some (t :: others)
      else none

/-- Reads an expression, or a name with a walrus and an expression. -/
def named (fuel : Nat) (ts : List Token) : Option (Tree × List Token) :=
  match fuel with
  | 0 => none
  | n + 1 =>
    match ts with
    | .name id :: .symbol .walrus :: ts => do
      let (t, ts) ← expression n powerExpression ts
      some (.other .namedExpr [.name id, t], ts)
    | ts => expression n powerExpression ts

/-- Reads an element of a bracket: a starred expression, or one that may be named. -/
def element (fuel : Nat) (ts : List Token) : Option (Tree × List Token) :=
  match fuel with
  | 0 => none
  | n + 1 =>
    match ts with
    | .symbol .star :: ts => do
      let (t, ts) ← expression n powerBitOr ts
      some (.other .starred [t], ts)
    | ts => named n ts

/-- Reads the elements up to the closing bracket; a comma may stand before it. -/
def elements (fuel : Nat) (close : Symbol) (ts : List Token) : Option (List Tree × List Token) :=
  match fuel with
  | 0 => none
  | n + 1 =>
    match expect close ts with
    | some ts => some ([], ts)
    | none => do
      let (t, ts) ← element n ts
      match expect .comma ts with
      | some ts =>
        let (others, ts) ← elements n close ts
        some (t :: others, ts)
      | none =>
        let ts ← expect close ts
        some ([t], ts)

/-- Reads what follows the first element of a bracket: a comma and more elements, or the end. -/
def otherElements (fuel : Nat) (close : Symbol) (ts : List Token) :
    Option (List Tree × List Token) :=
  match fuel with
  | 0 => none
  | n + 1 =>
    match expect .comma ts with
    | some ts => elements n close ts
    | none => do
      let ts ← expect close ts
      some ([], ts)

/-- Reads what follows an opening parenthesis. -/
def group (fuel : Nat) (ts : List Token) : Option (Tree × List Token) :=
  match fuel with
  | 0 => none
  | n + 1 =>
    match ts with
    | .symbol .closeParen :: ts => some (.other .tuple [], ts)
    | .keyword .kwYield :: ts => do
      let (t, ts) ← yielded n ts
      let ts ← expect .closeParen ts
      some (t, ts)
    | ts => do
      let (first, ts) ← element n ts
      if beginsClause ts then
        if first.isStarred then none
        else do
          let (parts, ts) ← clauses n ts
          let ts ← expect .closeParen ts
          some (.other .generatorExp (first :: parts), ts)
      else
        match expect .closeParen ts with
        | some ts => if first.isStarred then none else some (first, ts)
        | none =>
          let (others, ts) ← otherElements n .closeParen ts
          some (.other .tuple (first :: others), ts)

/-- Reads what follows an opening square bracket that begins an expression. -/
def list (fuel : Nat) (ts : List Token) : Option (Tree × List Token) :=
  match fuel with
  | 0 => none
  | n + 1 =>
    match ts with
    | .symbol .closeBracket :: ts => some (.other .list [], ts)
    | ts => do
      let (first, ts) ← element n ts
      if beginsClause ts then
        if first.isStarred then none
        else do
          let (parts, ts) ← clauses n ts
          let ts ← expect .closeBracket ts
          some (.other .listComp (first :: parts), ts)
      else do
        let (others, ts) ← otherElements n .closeBracket ts
        some (.other .list (first :: others), ts)

/-- Reads what follows an opening curly bracket: a set if its first element is neither doubly
starred nor followed by a colon. -/
def braces (fuel : Nat) (ts : List Token) : Option (Tree × List Token) :=
  match fuel with
  | 0 => none
  | n + 1 =>
    match ts with
    | .symbol .closeBrace :: ts => some (.other .dict [], ts)
    | .symbol .doubleStar :: _ => do
      let (parts, ts) ← entries n ts
      some (.other .dict parts, ts)
    | ts => do
      let (first, rest) ← element n ts
      match expect .colon rest with
      | some rest =>
        if first.isStarred || beginsNamed ts then none
        else do
          let (value, rest) ← expression n powerExpression rest
          if beginsClause rest then do
            let (parts, rest) ← clauses n rest
            let rest ← expect .closeBrace rest
            some (.other .dictComp (first :: value :: parts), rest)
          else
            match expect .comma rest with
            | some rest =>
              let (others, rest) ← entries n rest
              some (.other .dict (first :: value :: others), rest)
            | none =>
              let rest ← expect .closeBrace rest
              some (.other .dict [first, value], rest)
      | none =>
        if beginsClause rest then
          if first.isStarred then none
          else do
            let (parts, rest) ← clauses n rest
            let rest ← expect .closeBrace rest
            some (.other .setComp (first :: parts), rest)
        else do
          let (others, rest) ← otherElements n .closeBrace rest
          some (.other .set (first :: others), rest)

/-- Reads the entries of a dictionary up to the closing bracket. -/
def entries (fuel : Nat) (ts : List Token) : Option (List Tree × List Token) :=
  match fuel with
  | 0 => none
  | n + 1 =>
    match ts with
    | .symbol .closeBrace :: ts => some ([], ts)
    | ts => do
      let (entry, ts) ←
        match ts with
        | .symbol .doubleStar :: ts => do
          let (t, ts) ← expression n powerBitOr ts
          some ([t], ts)
        | ts => do
          let (key, ts) ← expression n powerExpression ts
          let ts ← expect .colon ts
          let (value, ts) ← expression n powerExpression ts
          some ([key, value], ts)
      match expect .comma ts with
      | some ts =>
        let (others, ts) ← entries n ts
        some (entry ++ others, ts)
      | none =>
        let ts ← expect .closeBrace ts
        some (entry, ts)

/-- Reads what follows `yield` inside parentheses. -/
def yielded (fuel : Nat) (ts : List Token) : Option (Tree × List Token) :=
  match fuel with
  | 0 => none
  | n + 1 =>
    match ts with
    | .symbol .closeParen :: _ => some (.other .yield [], ts)
    | .keyword .kwFrom :: ts => do
      let (t, ts) ← expression n powerExpression ts
      some (.other .yieldFrom [t], ts)
    | ts => do
      let (parts, ts) ← yieldedValues n ts
      some (.other .yield parts, ts)

/-- Reads the values of `yield` up to a closing parenthesis, which stays. -/
def yieldedValues (fuel : Nat) (ts : List Token) : Option (List Tree × List Token) :=
  match fuel with
  | 0 => none
  | n + 1 => do
    let (value, ts) ←
      match ts with
      | .symbol .star :: ts => do
        let (t, ts) ← expression n powerBitOr ts
        some (Tree.other .starred [t], ts)
      | ts => expression n powerExpression ts
    match ts with
    | .symbol .comma :: .symbol .closeParen :: rest => some ([value], .symbol .closeParen :: rest)
    | .symbol .comma :: ts =>
      let (others, ts) ← yieldedValues n ts
      some (value :: others, ts)
    | ts => some ([value], ts)

/-- Reads the clauses of a comprehension. -/
def clauses (fuel : Nat) (ts : List Token) : Option (List Tree × List Token) :=
  match fuel with
  | 0 => none
  | n + 1 =>
    let ts := match ts with
      | .keyword .kwAsync :: .keyword .kwFor :: ts => Token.keyword .kwFor :: ts
      | ts => ts
    match ts with
    | .keyword .kwFor :: ts => do
      let (targets, ts) ← targets n ts
      let (source, ts) ← expression n powerOr ts
      let (conditions, ts) ← conditions n ts
      let (others, ts) ← clauses n ts
      some (targets ++ source :: conditions ++ others, ts)
    | ts => some ([], ts)

/-- Reads the targets of a comprehension clause and the word behind them. -/
def targets (fuel : Nat) (ts : List Token) : Option (List Tree × List Token) :=
  match fuel with
  | 0 => none
  | n + 1 => do
    let (t, ts) ←
      match ts with
      | .symbol .star :: ts => expression n powerPostfix ts
      | ts => expression n powerPostfix ts
    if !t.isTarget then none
    match ts with
    | .keyword .kwIn :: ts => some ([t], ts)
    | .symbol .comma :: .keyword .kwIn :: ts => some ([t], ts)
    | .symbol .comma :: ts => do
      let (others, ts) ← targets n ts
      some (t :: others, ts)
    | _ => none

/-- Reads the conditions of a comprehension clause. -/
def conditions (fuel : Nat) (ts : List Token) : Option (List Tree × List Token) :=
  match fuel with
  | 0 => none
  | n + 1 =>
    match ts with
    | .keyword .kwIf :: ts => do
      let (t, ts) ← expression n powerOr ts
      let (others, ts) ← conditions n ts
      some (t :: others, ts)
    | ts => some ([], ts)

/-- Reads the arguments of a call up to the closing parenthesis: positional ones in phase zero,
then also keywords in phase one, and only keywords after a doubly starred one in phase two.
`first` says whether none has been read; a lone argument may be a comprehension. -/
def arguments (fuel : Nat) (first : Bool) (phase : Nat) (ts : List Token) :
    Option (List Tree × List Tree × List Token) :=
  match fuel with
  | 0 => none
  | n + 1 =>
    match ts with
    | .symbol .closeParen :: ts => some ([], [], ts)
    | .symbol .doubleStar :: ts => do
      let (t, ts) ← expression n powerExpression ts
      let (args, keywords, ts) ← otherArguments n 2 ts
      some (args, t :: keywords, ts)
    | .symbol .star :: ts =>
      if 2 ≤ phase then none
      else do
        let (t, ts) ← expression n powerExpression ts
        let (args, keywords, ts) ← otherArguments n phase ts
        some (.other .starred [t] :: args, keywords, ts)
    | .name _ :: .symbol .assign :: ts => do
      let (t, ts) ← expression n powerExpression ts
      let (args, keywords, ts) ← otherArguments n (max 1 phase) ts
      some (args, t :: keywords, ts)
    | ts =>
      if phase ≠ 0 then none
      else do
        let (t, ts) ← named n ts
        if first && beginsClause ts then do
          let (parts, ts) ← clauses n ts
          let ts ← expect .closeParen ts
          some ([.other .generatorExp (t :: parts)], [], ts)
        else do
          let (args, keywords, ts) ← otherArguments n phase ts
          some (t :: args, keywords, ts)

/-- Reads what follows an argument. -/
def otherArguments (fuel phase : Nat) (ts : List Token) :
    Option (List Tree × List Tree × List Token) :=
  match fuel with
  | 0 => none
  | n + 1 =>
    match expect .comma ts with
    | some ts => arguments n false phase ts
    | none => do
      let ts ← expect .closeParen ts
      some ([], [], ts)

/-- Reads the parts of a subscript up to the closing bracket. -/
def slices (fuel : Nat) (ts : List Token) : Option (List Tree × List Token) :=
  match fuel with
  | 0 => none
  | n + 1 => do
    let (t, ts) ← slice n ts
    match ts with
    | .symbol .closeBracket :: ts => some ([t], ts)
    | .symbol .comma :: .symbol .closeBracket :: ts => some ([t], ts)
    | .symbol .comma :: ts => do
      let (others, ts) ← slices n ts
      some (t :: others, ts)
    | _ => none

/-- Reads one part of a subscript: a starred expression, an expression, or a slice. -/
def slice (fuel : Nat) (ts : List Token) : Option (Tree × List Token) :=
  match fuel with
  | 0 => none
  | n + 1 =>
    match ts with
    | .symbol .star :: ts => do
      let (t, ts) ← expression n powerExpression ts
      some (.other .starred [t], ts)
    | .symbol .colon :: ts => do
      let (parts, ts) ← sliceEnd n ts
      some (.other .slice parts, ts)
    | ts =>
      if beginsNamed ts then named n ts
      else do
        let (t, ts) ← expression n powerExpression ts
        match ts with
        | .symbol .colon :: ts =>
          let (parts, ts) ← sliceEnd n ts
          some (.other .slice (t :: parts), ts)
        | ts => some (t, ts)

/-- Reads what follows the first colon of a slice. -/
def sliceEnd (fuel : Nat) (ts : List Token) : Option (List Tree × List Token) :=
  match fuel with
  | 0 => none
  | n + 1 => do
    let (upper, ts) ← sliceBound n ts
    match ts with
    | .symbol .colon :: ts =>
      let (step, ts) ← sliceBound n ts
      some (upper ++ step, ts)
    | ts => some (upper, ts)

/-- Reads a bound of a slice, which may be missing. -/
def sliceBound (fuel : Nat) (ts : List Token) : Option (List Tree × List Token) :=
  match fuel with
  | 0 => none
  | n + 1 =>
    match ts with
    | .symbol .colon :: _ | .symbol .comma :: _ | .symbol .closeBracket :: _ => some ([], ts)
    | ts => do
      let (t, ts) ← expression n powerExpression ts
      some ([t], ts)

/-- Reads a parameter list up to its colon; gives the defaults. -/
def parameters (fuel : Nat) (st : ParameterState) (ts : List Token) :
    Option (List Tree × List Token) :=
  match fuel with
  | 0 => none
  | n + 1 =>
    match ts with
    | .symbol .colon :: ts => if st.needed? then none else some ([], ts)
    | .symbol .slash :: ts =>
      if !st.some? || st.slash? || st.star? then none
      else otherParameters n { st with slash? := true } ts
    | .symbol .star :: .symbol .comma :: ts =>
      if st.star? then none else parameters n { st with star? := true, needed? := true } ts
    | .symbol .star :: .name _ :: ts =>
      if st.star? then none else otherParameters n { st with star? := true, some? := true } ts
    | .symbol .doubleStar :: .name _ :: ts =>
      if st.needed? then none
      else
        match ts with
        | .symbol .comma :: .symbol .colon :: ts => some ([], ts)
        | .symbol .colon :: ts => some ([], ts)
        | _ => none
    | .name _ :: .symbol .assign :: ts => do
      let (t, ts) ← expression n powerExpression ts
      let (others, ts) ←
        otherParameters n { st with some? := true, default? := true, needed? := false } ts
      some (t :: others, ts)
    | .name _ :: ts =>
      if st.default? && !st.star? then none
      else otherParameters n { st with some? := true, needed? := false } ts
    | _ => none

/-- Reads what follows a parameter. -/
def otherParameters (fuel : Nat) (st : ParameterState) (ts : List Token) :
    Option (List Tree × List Token) :=
  match fuel with
  | 0 => none
  | n + 1 =>
    match ts with
    | .symbol .comma :: ts => parameters n st ts
    | .symbol .colon :: ts => some ([], ts)
    | _ => none

end

/-- Reads the expressions of a tuple without parentheses, after its first comma. -/
def openTuple (fuel : Nat) (ts : List Token) : Option (List Tree) :=
  match fuel with
  | 0 => none
  | n + 1 =>
    match ts with
    | [] => some []
    | ts => do
      let (t, ts) ← expression (n + 1) powerExpression ts
      match ts with
      | [] => some [t]
      | .symbol .comma :: ts =>
        let others ← openTuple n ts
        some (t :: others)
      | _ => none

/-- The tree of a whole expression, or nothing if the text is none. -/
def parse? (s : Text) : Option Tree := do
  let ts ← tokens? s
  let fuel := 8 * (s.length + 2)
  let (t, rest) ← expression fuel powerExpression ts
  match rest with
  | [] => some t
  | .symbol .comma :: rest =>
    let others ← openTuple fuel rest
    some (.other .tuple (t :: others))
  | _ => none

end SignalLab.Expression
