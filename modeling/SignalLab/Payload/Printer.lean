import SignalLab.Payload.Basic

/-!
# Writing payloads — from values to text

`compact` writes a payload on one line, `indented` one item or entry per line, two blanks deeper
for each bracket.  All that is not printable ASCII is written by its code units.
-/

namespace SignalLab.Payload

/-! ## Texts and numbers -/

/-- A code unit of a quoted text. -/
def unitEscape (n : Nat) : Text :=
  '\\' :: 'u' :: Text.ofNatHex 4 n

/-- A character of a quoted text. -/
def escapeChar (c : Char) : Text :=
  let n := c.toNat
  if c = '"' ∨ c = '\\' then ['\\', c]
  else if c = '\n' then ['\\', 'n']
  else if c = '\r' then ['\\', 'r']
  else if c = '\t' then ['\\', 't']
  else if n = 8 then ['\\', 'b']
  else if n = 12 then ['\\', 'f']
  else if 0x20 ≤ n ∧ n < 0x7F then [c]
  else if n < 0x10000 then unitEscape n
  else
    unitEscape (0xD800 + (n - 0x10000) / 0x400) ++ unitEscape (0xDC00 + (n - 0x10000) % 0x400)

/-- A quoted text. -/
def writeText (s : Text) : Text :=
  '"' :: s.flatMap escapeChar ++ ['"']

/-- A double; what is not finite has its own word. -/
def writeReal (x : Float) : Text :=
  if x.isNaN then "NaN"
  else if x.isInf then if x < 0.0 then "-Infinity" else "Infinity"
  else Double.text x

/-! ## Nested values -/

/-- A line break and the blanks of an indentation, or nothing on a single line. -/
def lineBreak : Option Nat → Text
  | none => []
  | some depth => '\n' :: List.replicate (2 * depth) ' '

mutual

/-- A payload, inside `depth` brackets if it is indented at all. -/
def write (depth : Option Nat) : Payload → Text
  | .null => "null"
  | .bool b => if b then "true" else "false"
  | .integer n => Text.ofInt n
  | .real x => writeReal x
  | .text s => writeText s
  | .list [] => "[]"
  | .list (p :: ps) =>
    let inner := depth.map (· + 1)
    '[' :: lineBreak inner ++ p.write inner ++ writeItems inner ps ++ lineBreak depth ++ [']']
  | .object [] => ['\x7b', '\x7d']
  | .object ((key, p) :: es) =>
    let inner := depth.map (· + 1)
    '\x7b' :: lineBreak inner ++ writeText key ++ ": " ++ p.write inner ++ writeEntries inner es ++
      lineBreak depth ++ ['\x7d']

/-- The items behind the first. -/
def writeItems (depth : Option Nat) : List Payload → Text
  | [] => []
  | p :: ps =>
    (if depth.isSome then [','] else [',', ' ']) ++ lineBreak depth ++ p.write depth ++
      writeItems depth ps

/-- The entries behind the first. -/
def writeEntries (depth : Option Nat) : List (Text × Payload) → Text
  | [] => []
  | (key, p) :: es =>
    (if depth.isSome then [','] else [',', ' ']) ++ lineBreak depth ++ writeText key ++ ": " ++
      p.write depth ++ writeEntries depth es

end

/-- A payload on one line. -/
def compact (p : Payload) : Text :=
  p.write none

/-- A payload over several lines. -/
def indented (p : Payload) : Text :=
  p.write (some 0)

end SignalLab.Payload
