import SignalLab.Text.Basic

/-!
# Tokens of expressions — operators, reserved words, names and literals

The alphabet between the text of an expression and its tree.  The expression language has far more
syntax than the evaluator accepts; all of it is recognised, so that a text outside the language is
told apart from one that is merely unsupported.
-/

namespace SignalLab.Expression

/-- Operators, brackets and separators. -/
inductive Symbol where
  | plus | minus | star | slash | percent | at | tilde | amp | bar
  | doubleStar | doubleSlash | shiftLeft | shiftRight
  | equal | notEqual | less | lessEqual | greater | greaterEqual
  | assign | walrus | arrow | colon | comma | dot | ellipsis | semicolon
  | openParen | closeParen | openBracket | closeBracket | openBrace | closeBrace
  deriving DecidableEq, Repr

/-- Reserved words.  Those that begin no expression and join none are all alike. -/
inductive Keyword where
  | kwAnd | kwOr | kwNot | kwIf | kwElse | kwLambda | kwFor | kwIn | kwIs
  | kwAwait | kwAsync | kwYield | kwFrom | kwTrue | kwFalse | kwNone | statement
  deriving DecidableEq, Repr

/-- A token.  A template text carries the tokens of the expressions in its fields. -/
inductive Token where
  | symbol (s : Symbol)
  | keyword (k : Keyword)
  | name (id : Text)
  | integer (n : Nat)
  | real (x : Float)
  | imaginary
  | text
  | bytes
  | template (fields : List (List Token))

/-- The reserved words that occur inside expressions. -/
def expressionKeywords : List (String × Keyword) :=
  [("and", .kwAnd), ("or", .kwOr), ("not", .kwNot), ("if", .kwIf), ("else", .kwElse),
   ("lambda", .kwLambda), ("for", .kwFor), ("in", .kwIn), ("is", .kwIs), ("await", .kwAwait),
   ("async", .kwAsync), ("yield", .kwYield), ("from", .kwFrom), ("True", .kwTrue),
   ("False", .kwFalse), ("None", .kwNone)]

/-- The reserved words that occur in statements only. -/
def statementKeywords : List String :=
  ["as", "assert", "break", "class", "continue", "def", "del", "elif", "except", "finally",
   "global", "import", "nonlocal", "pass", "raise", "return", "try", "while", "with"]

/-- The reserved word a text is. -/
def keyword? (word : Text) : Option Keyword :=
  match expressionKeywords.find? fun (w, _) => w.toList = word with
  | some (_, k) => some k
  | none => if statementKeywords.any fun w => w.toList = word then some .statement else none

/-- The longest operator or bracket at the front of a text, and the rest. -/
def symbol? : Text → Option (Symbol × Text)
  | '.' :: '.' :: '.' :: s => some (.ellipsis, s)
  | '*' :: '*' :: s => some (.doubleStar, s)
  | '/' :: '/' :: s => some (.doubleSlash, s)
  | '<' :: '<' :: s => some (.shiftLeft, s)
  | '>' :: '>' :: s => some (.shiftRight, s)
  | '=' :: '=' :: s => some (.equal, s)
  | '!' :: '=' :: s => some (.notEqual, s)
  | '<' :: '=' :: s => some (.lessEqual, s)
  | '>' :: '=' :: s => some (.greaterEqual, s)
  | ':' :: '=' :: s => some (.walrus, s)
  | '-' :: '>' :: s => some (.arrow, s)
  | '+' :: s => some (.plus, s)
  | '-' :: s => some (.minus, s)
  | '*' :: s => some (.star, s)
  | '/' :: s => some (.slash, s)
  | '%' :: s => some (.percent, s)
  | '@' :: s => some (.at, s)
  | '~' :: s => some (.tilde, s)
  | '&' :: s => some (.amp, s)
  | '|' :: s => some (.bar, s)
  | '<' :: s => some (.less, s)
  | '>' :: s => some (.greater, s)
  | '=' :: s => some (.assign, s)
  | ':' :: s => some (.colon, s)
  | ',' :: s => some (.comma, s)
  | '.' :: s => some (.dot, s)
  | ';' :: s => some (.semicolon, s)
  | '(' :: s => some (.openParen, s)
  | ')' :: s => some (.closeParen, s)
  | '[' :: s => some (.openBracket, s)
  | ']' :: s => some (.closeBracket, s)
  | '\x7b' :: s => some (.openBrace, s)
  | '\x7d' :: s => some (.closeBrace, s)
  | _ => none

/-- Whether a symbol opens a bracket. -/
def Symbol.opens (s : Symbol) : Bool :=
  s == .openParen || s == .openBracket || s == .openBrace

/-- Whether a symbol closes a bracket. -/
def Symbol.closes (s : Symbol) : Bool :=
  s == .closeParen || s == .closeBracket || s == .closeBrace

end SignalLab.Expression
