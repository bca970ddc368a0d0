import SignalLab.Expression.Token
import SignalLab.Number.Reading

/-!
# Numerals — the number literals of expressions

A numeral is a decimal integer without leading zeros, an integer in base two, eight or sixteen, a
decimal fraction with an optional exponent, or an imaginary number.  Single underscores may stand
between digits.  A letter directly after a numeral is refused, unless it begins one of the words
that may follow an operand.
-/

namespace SignalLab.Expression

/-- Characters that can be part of a name, as far as the first byte of their encoding tells. -/
def isNameLike (c : Char) : Bool :=
  c == '_' || c.isAlphanum || 0x80 ≤ c.toNat

/-- Whether a numeral may end before the given text. -/
def endsNumeral (s : Text) : Bool :=
  let joins := ["and", "else", "for", "if", "in", "is", "or", "not"].any fun w =>
    w.toList.isPrefixOf s
  joins || !(s.head?.any isNameLike)

/-- Digits of a base at the front, with single underscores between them, and the rest.  An
underscore that no digit follows is refused. -/
def takeBaseDigits? (isDigit : Char → Bool) : Text → Option (Text × Text)
  | [] => some ([], [])
  | '_' :: c :: s =>
    if isDigit c then (takeBaseDigits? isDigit s).map fun (ds, rest) => (c :: ds, rest) else none
  | c :: s =>
    if isDigit c then (takeBaseDigits? isDigit s).map fun (ds, rest) => (c :: ds, rest)
    else if c = '_' then none
    else some ([], c :: s)

/-- At least one decimal digit, not preceded by an underscore. -/
def takeDecimal? (s : Text) : Option (Text × Text) :=
  if s.head?.any Char.isDigit then takeBaseDigits? Char.isDigit s else none

/-- The value of a digit in any base up to sixteen. -/
def baseDigit (c : Char) : Nat :=
  if c.isDigit then c.toNat - '0'.toNat else c.toLower.toNat - 'a'.toNat + 10

/-- The number with the given digits in the given base. -/
def numberInBase (base : Nat) (ds : Text) : Nat :=
  ds.foldl (fun n c => base * n + baseDigit c) 0

/-- Hexadecimal digits. -/
def isHexDigit (c : Char) : Bool :=
  c.isDigit || ('a' ≤ c && c ≤ 'f') || ('A' ≤ c && c ≤ 'F')

/-- Octal digits. -/
def isOctalDigit (c : Char) : Bool :=
  '0' ≤ c && c ≤ '7'

/-- Binary digits. -/
def isBinaryDigit (c : Char) : Bool :=
  c == '0' || c == '1'

/-- An integer after a base mark: at least one digit, and no digit of a larger base behind. -/
def readBaseInteger? (base : Nat) (isDigit : Char → Bool) (s : Text) : Option (Token × Text) :=
  match takeBaseDigits? isDigit s with
  | some (d :: ds, rest) =>
    if rest.head?.any Char.isDigit || !endsNumeral rest then none
    else some (.integer (numberInBase base (d :: ds)), rest)
  | _ => none

/-- An exponent at the front: its value, and the rest.  A mark without digits is no exponent if a
word may begin there; otherwise it is refused. -/
def readExponentPart? : Text → Option (Option Int × Text)
  | [] => some (none, [])
  | c :: s =>
    if c = 'e' ∨ c = 'E' then
      match s with
      | '+' :: r => (takeDecimal? r).map fun (ds, rest) => (some (numberInBase 10 ds), rest)
      | '-' :: r => (takeDecimal? r).map fun (ds, rest) => (some (-(numberInBase 10 ds : Int)), rest)
      | r =>
        if r.head?.any Char.isDigit then
          (takeDecimal? r).map fun (ds, rest) => (some (numberInBase 10 ds), rest)
        else if endsNumeral (c :: s) then some (none, c :: s)
        else none
    else some (none, c :: s)

/-- A double, unless the mark of an imaginary number follows. -/
def finishReal? (whole fraction : Text) (e : Int) (s : Text) : Option (Token × Text) :=
  match s with
  | 'j' :: rest => if endsNumeral rest then some (.imaginary, rest) else none
  | 'J' :: rest => if endsNumeral rest then some (.imaginary, rest) else none
  | rest =>
    if endsNumeral rest then
      let digits := whole ++ fraction
      some (.real (Double.ofDecimal false (numberInBase 10 digits) (e - fraction.length)), rest)
    else none

/-- The part of a decimal fraction behind its point. -/
def readFraction? (whole : Text) (s : Text) : Option (Token × Text) := do
  let (fraction, s) ← if s.head?.any Char.isDigit then takeDecimal? s else some ([], s)
  let (e, s) ← readExponentPart? s
  finishReal? whole fraction (e.getD 0) s

/-- The decimal numeral at the front of a text that begins with a digit.  With a zero in front it is
a double, and only the word `else` may follow it directly. -/
def readDecimalNumeral? (s : Text) : Option (Token × Text) := do
  let (whole, s) ← takeDecimal? s
  match s with
  | '.' :: rest => readFraction? whole rest
  | rest =>
    let (e, rest) ← readExponentPart? rest
    let isImaginary := rest.head? = some 'j' || rest.head? = some 'J'
    if e.isSome || isImaginary then finishReal? whole [] (e.getD 0) rest
    else if !endsNumeral rest then none
    else if whole.head? = some '0' && whole.any (· != '0') then
      if rest.head? = some 'e' then finishReal? whole [] 0 rest else none
    else if Text.maxIntegerDigits < whole.length && whole.any (· != '0') then none
    else some (.integer (numberInBase 10 whole), rest)

/-- The numeral at the front of a text that begins with a digit, or with a point and a digit. -/
def readNumeral? : Text → Option (Token × Text)
  | '0' :: 'x' :: s | '0' :: 'X' :: s => readBaseInteger? 16 isHexDigit s
  | '0' :: 'o' :: s | '0' :: 'O' :: s => readBaseInteger? 8 isOctalDigit s
  | '0' :: 'b' :: s | '0' :: 'B' :: s => readBaseInteger? 2 isBinaryDigit s
  | '.' :: s => readFraction? [] s
  | s => readDecimalNumeral? s

end SignalLab.Expression
