import SignalLab.Expression.Parser

/-!
# Parsing — what the parser reads in an arithmetic expression

The parser calls itself through a dozen functions, most of them for constructs that an arithmetic
expression does not have.  Here is what each of them does with the tokens of one: an operand is a
number, a name, a sign with its operand or a group; behind it stands an operator, the arguments of a
call, or what ends it.  The bound on the depth of the calls is one more outside than inside.
-/

namespace SignalLab.Expression

/-- Whether tokens begin an arithmetic expression: with a number, a sign, a parenthesis, or a name
that is neither bound nor assigned. -/
def beginsArithmetic : List Token → Bool
  | .integer _ :: _ => true
  | .real _ :: _ => true
  | .symbol s :: _ => s == .plus || s == .minus || s == .openParen
  | .name _ :: .symbol s :: _ => s != .walrus && s != .assign
  | _ => false

variable {n power : Nat} {ts : List Token}

/-! ## Operands -/

/-- An expression is an operand and what extends it. -/
theorem expression_succ :
    expression (n + 1) power ts =
      (operand n power ts).bind fun (left, ts) => extend n power left ts := by
  rw [expression]
  rfl

/-- A literal is an operand by itself. -/
theorem operand_integer (k : Nat) :
    operand (n + 1) power (.integer k :: ts) = some (.literal (.integer k), ts) := by
  rw [operand]

theorem operand_real (x : Float) :
    operand (n + 1) power (.real x :: ts) = some (.literal (.real x), ts) := by
  rw [operand]

/-- So is a name, whatever it is bound to. -/
theorem operand_name (id : Text) :
    operand (n + 1) power (.name id :: ts) = some (.name id, ts) := by
  rw [operand]

/-- A parenthesis opens a group. -/
theorem operand_group : operand (n + 1) power (.symbol .openParen :: ts) = group n ts := by
  rw [operand]

/-- A sign takes an operand that binds at least as strongly. -/
theorem operand_unary {s : Symbol} {op : UnaryOp} (hs : unary? s = some op)
    (hpower : power ≤ powerUnary) {t : Tree} {rest : List Token}
    (h : expression n powerUnary ts = some (t, rest)) :
    operand (n + 1) power (.symbol s :: ts) = some (.unary op t, rest) := by
  rw [operand, hs]
  · simp only [if_neg (Nat.not_lt.mpr hpower), h]
    rfl
  all_goals
    rintro rfl
    cases hs

/-! ## Behind an operand -/

/-- Nothing extends an operand that the tokens end behind. -/
theorem extend_nil (left : Tree) : extend (n + 1) power left [] = some (left, []) := by
  rw [extend]
  · rfl
  all_goals simp

/-- A closing parenthesis and a comma end an expression. -/
theorem extend_stop {s : Symbol} (hs : s = .closeParen ∨ s = .comma) (left : Tree) :
    extend (n + 1) power left (.symbol s :: ts) = some (left, .symbol s :: ts) := by
  rcases hs with rfl | rfl
  · rw [extend]
    · rfl
    all_goals simp
  · rw [extend]
    · rfl
    all_goals simp

/-- An expression that is read up to a closing parenthesis or a comma ends there. -/
theorem expression_of_extend {fuel : Nat} (hfuel : 3 ≤ fuel) {s : Symbol}
    (hs : s = .closeParen ∨ s = .comma) {t : Tree} {rest : List Token}
    (h : ∃ m, fuel ≤ m + 2 ∧ expression fuel power ts = extend m power t (.symbol s :: rest)) :
    expression fuel power ts = some (t, .symbol s :: rest) := by
  obtain ⟨m, hm, h⟩ := h
  obtain ⟨j, rfl⟩ : ∃ j, m = j + 1 := ⟨m - 1, by omega⟩
  rw [h, extend_stop hs]

/-- A parenthesis behind an operand makes it a call. -/
theorem extend_call (left : Tree) :
    extend (n + 1) power left (.symbol .openParen :: ts) =
      (arguments n true 0 ts).bind fun (args, keywords, ts) =>
        extend n power (.call left args keywords) ts := by
  rw [extend]
  rfl

/-- An operator that binds strongly enough takes a right operand, and the result is extended. -/
theorem extend_binary {s : Symbol} {op : BinaryOp} {strength inner : Nat}
    (hs : binary? s = some (op, strength, inner)) (hpower : power ≤ strength) (left : Tree) :
    extend (n + 1) power left (.symbol s :: ts) =
      (expression n inner ts).bind fun (right, ts) =>
        extend n power (.binary op left right) ts := by
  have hcomparison : afterComparison? (.symbol s :: ts) = none := by
    cases s <;> first | rfl | cases hs
  rw [extend, hcomparison]
  · simp only [hs, if_neg (Nat.not_lt.mpr hpower)]
    rfl
  all_goals
    intros
    rename_i heq
    cases heq <;> cases hs

/-! ## Groups and arguments -/

/-- Tokens that begin like arithmetic name nothing. -/
theorem named_arithmetic (hts : beginsArithmetic ts = true) :
    named (n + 1) ts = expression n powerExpression ts := by
  rw [named]
  rintro id rest rfl
  cases hts

/-- An expression up to the closing parenthesis is a group. -/
theorem group_arithmetic (hts : beginsArithmetic ts = true) {t : Tree} {rest : List Token}
    (ht : t.isStarred = false)
    (h : expression n powerExpression ts = some (t, .symbol .closeParen :: rest)) :
    group (n + 3) ts = some (t, rest) := by
  have helement : element (n + 2) ts = some (t, .symbol .closeParen :: rest) := by
    rw [element, named_arithmetic hts, h]
    rintro rest rfl
    cases hts
  rw [group, helement]
  · show (if t.isStarred then none else some (t, rest)) = _
    rw [ht]
    rfl
  all_goals
    rintro rest rfl
    cases hts

/-- An arithmetic expression in parentheses is an operand. -/
theorem expression_group (hts : beginsArithmetic ts = true) {t : Tree} {rest : List Token}
    (ht : t.isStarred = false)
    (h : expression n powerExpression ts = some (t, .symbol .closeParen :: rest)) :
    expression (n + 5) power (.symbol .openParen :: ts) = extend (n + 4) power t rest := by
  rw [expression_succ, operand_group, group_arithmetic hts ht h]
  rfl

/-- A call may have no arguments. -/
theorem arguments_nil (first : Bool) (phase : Nat) :
    arguments (n + 1) first phase (.symbol .closeParen :: ts) = some ([], [], ts) := by
  rw [arguments]

/-- An expression among the arguments is the next argument. -/
theorem arguments_arithmetic (hts : beginsArithmetic ts = true) (first : Bool) {t : Tree}
    {s : Symbol} {rest : List Token}
    (h : expression n powerExpression ts = some (t, .symbol s :: rest)) :
    arguments (n + 2) first 0 ts =
      (otherArguments (n + 1) 0 (.symbol s :: rest)).bind fun (args, keywords, rest) =>
        some (t :: args, keywords, rest) := by
  rw [arguments, named_arithmetic hts, h, if_neg (by decide)]
  · show (if first && false then _ else _) = _
    rw [Bool.and_false]
    rfl
  · rintro rest rfl
    cases hts
  · rintro rest rfl
    cases hts
  · rintro rest rfl
    cases hts
  · rintro id rest rfl
    cases hts

/-- A closing parenthesis ends the arguments, and a comma asks for a further one. -/
theorem otherArguments_close (phase : Nat) :
    otherArguments (n + 1) phase (.symbol .closeParen :: ts) = some ([], [], ts) := by
  rw [otherArguments]
  rfl

theorem otherArguments_comma (phase : Nat) :
    otherArguments (n + 1) phase (.symbol .comma :: ts) = arguments n false phase ts := by
  rw [otherArguments]
  rfl

end SignalLab.Expression
