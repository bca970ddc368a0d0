import SignalLab.Payload.Basic

/-!
# Reading payloads — from text to values

The notation of the data format: `null`, `true`, `false`, numbers, quoted texts, lists in square
brackets and objects in curly ones, with blanks between.  A number without point and exponent is an
integer.  Infinities and what is no number have their own words.  Of equal keys in an object the
first keeps the place and the last the value.

The functions that read nested values take a bound for their steps; the length of the text is
enough.
-/

namespace SignalLab.Payload

/-- Drops the blanks between values. -/
def dropGap (s : Text) : Text :=
  s.dropWhile fun c => c == ' ' || c == '\t' || c == '\n' || c == '\r'

/-! ## Quoted texts -/

/-- The value of a hexadecimal digit. -/
def hexDigit? (c : Char) : Option Nat :=
  if c.isDigit then some (c.toNat - '0'.toNat)
  else if 'a' ≤ c ∧ c ≤ 'f' then some (c.toNat - 'a'.toNat + 10)
  else if 'A' ≤ c ∧ c ≤ 'F' then some (c.toNat - 'A'.toNat + 10)
  else none

/-- The number of four hexadecimal digits. -/
def hexUnit? (a b c d : Char) : Option Nat := do
  some ((((← hexDigit? a) * 16 + (← hexDigit? b)) * 16 + (← hexDigit? c)) * 16 + (← hexDigit? d))

/-- The character of a one-letter escape. -/
def simpleEscape? : Char → Option Char
  | '"' => some '"'
  | '\\' => some '\\'
  | '/' => some '/'
  | 'b' => some '\x08'
  | 'f' => some '\x0c'
  | 'n' => some '\n'
  | 'r' => some '\r'
  | 't' => some '\t'
  | _ => none

/-- The character of a code unit that is not one of a pair; a unit that only makes sense in a pair
is shown as the replacement character. -/
def ofUnit (n : Nat) : Char :=
  if 0xD800 ≤ n ∧ n < 0xE000 then '\ufffd' else Char.ofNat n

/-- The contents of a quoted text up to the closing quote, and the rest. -/
def readQuoted? : Text → Option (Text × Text)
  | [] => none
  | '"' :: s => some ([], s)
  | '\\' :: 'u' :: a :: b :: c :: d :: '\\' :: 'u' :: a' :: b' :: c' :: d' :: s => do
    let high ← hexUnit? a b c d
    let low := (hexUnit? a' b' c' d').getD 0
    if 0xD800 ≤ high ∧ high < 0xDC00 ∧ 0xDC00 ≤ low ∧ low < 0xE000 then
      let (body, rest) ← readQuoted? s
      some (Char.ofNat (0x10000 + (high - 0xD800) * 0x400 + (low - 0xDC00)) :: body, rest)
    else
      let (body, rest) ← readQuoted? ('\\' :: 'u' :: a' :: b' :: c' :: d' :: s)
      some (ofUnit high :: body, rest)
  | '\\' :: 'u' :: a :: b :: c :: d :: s => do
    let unit ← hexUnit? a b c d
    let (body, rest) ← readQuoted? s
    some (ofUnit unit :: body, rest)
  | '\\' :: e :: s => do
    let c ← simpleEscape? e
    let (body, rest) ← readQuoted? s
    some (c :: body, rest)
  | c :: s =>
    if c.toNat < 0x20 ∨ c = '\\' then none
    else (readQuoted? s).map fun (body, rest) => (c :: body, rest)

/-! ## Numbers -/

/-- The ASCII digits at the front, and the rest. -/
def takeAsciiDigits (s : Text) : Text × Text :=
  (s.takeWhile Char.isDigit, s.dropWhile Char.isDigit)

/-- The fraction at the front, if there is one, and the rest. -/
def takeFraction (s : Text) : Option Text × Text :=
  match s with
  | '.' :: rest =>
    match takeAsciiDigits rest with
    | ([], _) => (none, s)
    | (ds, rest) => (some ds, rest)
  | _ => (none, s)

/-- The exponent at the front, if there is one, and the rest. -/
def takeExponent (s : Text) : Option Int × Text :=
  match s with
  | c :: rest =>
    if c = 'e' ∨ c = 'E' then
      let (negative, digits) := Text.takeSign rest
      match takeAsciiDigits digits with
      | ([], _) => (none, s)
      | (ds, rest) =>
        let n := Text.numberOf (Text.takeDigits ds).1
        (some (if negative then -(n : Int) else n), rest)
    else (none, s)
  | [] => (none, s)

/-- The number at the front, and the rest.  Its whole part has no leading zeros; if it is an
integer, it must not have too many digits. -/
def readNumber? (s : Text) : Option (Payload × Text) :=
  let (negative, s) := match s with
    | '-' :: rest => (true, rest)
    | _ => (false, s)
  let (whole, s) := match s with
    | '0' :: rest => (['0'], rest)
    | _ => takeAsciiDigits s
  if whole.isEmpty then none
  else
    let (fraction, s) := takeFraction s
    let (exponent, s) := takeExponent s
    let digits := (Text.takeDigits (whole ++ fraction.getD [])).1
    if fraction.isNone && exponent.isNone then
      match Text.integerOfDigits negative digits with
      | .ok n => some (.integer n, s)
      | .error _ => none
    else
      let e := exponent.getD 0 - ((fraction.getD []).length : Int)
      some (.real (Double.ofDecimal negative (Text.numberOf digits) e), s)

/-! ## Values -/

/-- The words of the format and their values. -/
def constants : List (String × Payload) :=
  [("null", .null), ("true", .bool true), ("false", .bool false), ("NaN", .real Double.nan),
   ("Infinity", .real Double.infinity), ("-Infinity", .real (-Double.infinity))]

/-- The word at the front, and the rest. -/
def readConstant? (s : Text) : Option (Payload × Text) :=
  constants.findSome? fun (word, value) => (Text.after? word s).map (value, ·)

mutual

/-- The value at the front, and the rest. -/
def readValue? (fuel : Nat) (s : Text) : Option (Payload × Text) :=
  match fuel with
  | 0 => none
  | n + 1 =>
    match s with
    | '"' :: s => (readQuoted? s).map fun (body, rest) => (.text body, rest)
    | '[' :: s =>
      match dropGap s with
      | ']' :: rest => some (.list [], rest)
      | s => (readItems? n s).map fun (items, rest) => (.list items, rest)
    | '\x7b' :: s =>
      match dropGap s with
      | '\x7d' :: rest => some (.object [], rest)
      | s => (readEntries? n [] s).map fun (entries, rest) => (.object entries, rest)
    | s => (readConstant? s).or (readNumber? s)

/-- The items of a list up to its closing bracket, and the rest. -/
def readItems? (fuel : Nat) (s : Text) : Option (List Payload × Text) :=
  match fuel with
  | 0 => none
  | n + 1 => do
    let (item, s) ← readValue? n (dropGap s)
    match dropGap s with
    | ',' :: s =>
      let (items, rest) ← readItems? n s
      some (item :: items, rest)
    | ']' :: s => some ([item], s)
    | _ => none

/-- The entries of an object up to its closing bracket, after those read `before`, and the rest. -/
def readEntries? (fuel : Nat) (before : Keyed Payload) (s : Text) :
    Option (Keyed Payload × Text) :=
  match fuel with
  | 0 => none
  | n + 1 =>
    match dropGap s with
    | '"' :: s => do
      let (key, s) ← readQuoted? s
      match dropGap s with
      | ':' :: s =>
        let (value, s) ← readValue? n (dropGap s)
        let entries := Keyed.assign key value before
        match dropGap s with
        | ',' :: s => readEntries? n entries s
        | '\x7d' :: s => some (entries, s)
        | _ => none
      | _ => none
    | _ => none

end

/-- The value a whole text writes. -/
def read? (s : Text) : Option Payload :=
  match readValue? (s.length + 1) (dropGap s) with
  | some (value, rest) => if (dropGap rest).isEmpty then some value else none
  | none => none

end SignalLab.Payload
