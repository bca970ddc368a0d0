import SignalLab.Number.Decimal
import SignalLab.Text.Quoted

/-!
# Reading numbers — decimal literals, and the integers and doubles written by a text

`Double.ofDecimal` is the double nearest to a decimal.  `readLiteral?` reads a bare decimal
literal: a sign, digits with at most one point, an exponent; the digits may be those of any script.
`readDouble` and `readInteger` read what a whole text writes, blanks around it and single
underscores between digits allowed.
-/

namespace SignalLab

/-- The double nearest to `coefficient * 10 ^ exponent`.  Far beyond either end of the range the
power is not worked out. -/
def Double.ofDecimal (negative : Bool) (coefficient : Nat) (exponent : Int) : Float :=
  let top : Int := Decimal.digitCount coefficient + exponent
  if coefficient = 0 ∨ top < -400 then Double.nearest negative 0 1
  else if 400 < top then if negative then -Double.infinity else Double.infinity
  else
    Double.nearest negative (coefficient * tenTo exponent.toNat) (tenTo (-exponent).toNat)

namespace Text

/-! ## Digits -/

/-- The values of the decimal digits at the front, and the rest. -/
def takeDigits : Text → List Nat × Text
  | [] => ([], [])
  | c :: s =>
    match digitValue? c with
    | some d => let (ds, rest) := takeDigits s; (d :: ds, rest)
    | none => ([], c :: s)

/-- The number with the given decimal digits. -/
def numberOf (digits : List Nat) : Nat :=
  digits.foldl (fun n d => 10 * n + d) 0

/-- The sign at the front, if there is one, and the rest. -/
def takeSign : Text → Bool × Text
  | '+' :: s => (false, s)
  | '-' :: s => (true, s)
  | s => (false, s)

/-! ## Bare literals -/

/-- The exponent at the front, zero if there is none; the whole text has to be used up. -/
def readExponent? : Text → Option Int
  | [] => some 0
  | c :: s =>
    if c = 'e' ∨ c = 'E' then
      let (negative, s) := takeSign s
      match takeDigits s with
      | ([], _) => none
      | (ds, []) => some (if negative then -(numberOf ds : Int) else numberOf ds)
      | _ => none
    else none

/-- Reads a decimal literal: an optional sign, digits before or after a point or both, and an
optional exponent. -/
def readLiteral? (s : Text) : Option Float :=
  let (negative, s) := takeSign s
  let (whole, s) := takeDigits s
  let (fraction, s) := match s with
    | '.' :: rest => takeDigits rest
    | _ => ([], s)
  if whole.isEmpty && fraction.isEmpty then none
  else
    (readExponent? s).map fun e =>
      Double.ofDecimal negative (numberOf (whole ++ fraction)) (e - fraction.length)

/-! ## Texts that write a number -/

/-- Blanks that may stand around a number. -/
def isBlankAroundNumber (c : Char) : Bool :=
  isBlank c && !(28 ≤ c.toNat && c.toNat ≤ 31)

/-- Removes the blanks around a number. -/
def trimNumber (s : Text) : Text :=
  ((s.dropWhile isBlankAroundNumber).reverse.dropWhile isBlankAroundNumber).reverse

/-- Removes the underscores, each of which has to stand between two digits. -/
def dropUnderscores? (s : Text) : Option Text :=
  go false s
where
  /-- `afterDigit` says whether a digit was read last. -/
  go (afterDigit : Bool) : Text → Option Text
    | [] => some []
    | c :: s =>
      if c = '_' then
        if afterDigit && (s.head?.any isDecimalDigit) then go false s else none
      else (go (isDecimalDigit c) s).map (c :: ·)

/-- The doubles that are written by a word, in lower case. -/
def readSpecial? (s : Text) : Option Float :=
  let (negative, word) := takeSign (lowerAscii s)
  let value := if word = "inf".toList ∨ word = "infinity".toList then some Double.infinity
    else if word = "nan".toList then some Double.nan
    else none
  value.map fun x => if negative then -x else x

/-- The double a text writes, or nothing. -/
def readDouble? (s : Text) : Option Float :=
  match dropUnderscores? (trimNumber s) with
  | none => none
  | some s => (readSpecial? s).or (readLiteral? s)

/-- The number of digits an integer may be written with. -/
def maxIntegerDigits : Nat := 4300

/-- Why a text writes no integer. -/
inductive IntegerFault where
  | notAnInteger (text : Text)
  | tooManyDigits (count : Nat)
  deriving DecidableEq, Repr

/-- The wording of an `IntegerFault`; a long text is cut. -/
def IntegerFault.message : IntegerFault → Text
  | .notAnInteger s => "invalid literal for int() with base 10: " ++ (quoted s).take 200
  | .tooManyDigits n =>
    "Exceeds the limit (" ++ ofNat maxIntegerDigits ++
      " digits) for integer string conversion: value has " ++ ofNat n ++
      " digits; use sys.set_int_max_str_digits() to increase the limit"

/-- The digits at the front, with single underscores between them, and the rest. -/
def takeGroupedDigits (s : Text) : List Nat × Text :=
  match s with
  | [] => ([], [])
  | c :: s =>
    match digitValue? c with
    | none => ([], c :: s)
    | some d =>
      match s with
      | '_' :: c' :: rest =>
        if isDecimalDigit c' then
          let (ds, rest) := takeGroupedDigits (c' :: rest)
          (d :: ds, rest)
        else ([d], '_' :: c' :: rest)
      | s => let (ds, rest) := takeGroupedDigits s; (d :: ds, rest)

/-- The integer with the given digits, unless there are too many. -/
def integerOfDigits (negative : Bool) (ds : List Nat) : Except IntegerFault Int :=
  if maxIntegerDigits < ds.length then .error (.tooManyDigits ds.length)
  else .ok (if negative then -(numberOf ds : Int) else numberOf ds)

/-- The integer a text writes. -/
def readInteger (s : Text) : Except IntegerFault Int :=
  let (negative, body) := takeSign (trimNumber s)
  match takeGroupedDigits body with
  | ([], _) => .error (.notAnInteger s)
  | (ds, rest) =>
    if maxIntegerDigits < ds.length then .error (.tooManyDigits ds.length)
    else if rest.isEmpty then integerOfDigits negative ds
    else .error (.notAnInteger s)

end Text

end SignalLab
