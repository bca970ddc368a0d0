import SignalLab.Text.Basic

/-!
# Top-level parts — cutting a text outside brackets and quotes

`splitTopLevel sep` cuts at every separator that stands outside quotes and at bracket depth zero.
A quote opens a quoted stretch that the same quote ends.  All brackets count alike, and a closing
bracket without an opening one makes the depth negative, so that no cut is made until it is undone.
Joining the parts with the separator gives the text back.
-/

namespace SignalLab.Text

/-- The characters that open and close quoted stretches. -/
def isQuote (c : Char) : Bool :=
  c == '\'' || c == '"'

/-- Opening brackets. -/
def isOpening (c : Char) : Bool :=
  c == '(' || c == '[' || c == '\x7b'

/-- Closing brackets. -/
def isClosing (c : Char) : Bool :=
  c == ')' || c == ']' || c == '\x7d'

/-- Puts a character in front of the first part. -/
def addToFirst (c : Char) : List Text → List Text
  | [] => [[c]]
  | part :: parts => (c :: part) :: parts

/-- The parts of a text that begins inside the given quote, if any, at the given depth. -/
def partsFrom (sep : Char) (quote : Option Char) (depth : Int) : Text → List Text
  | [] => [[]]
  | c :: s =>
    match quote with
    | some q => addToFirst c (partsFrom sep (if c = q then none else some q) depth s)
    | none =>
      if isQuote c then addToFirst c (partsFrom sep (some c) depth s)
      else if isOpening c then addToFirst c (partsFrom sep none (depth + 1) s)
      else if isClosing c then addToFirst c (partsFrom sep none (depth - 1) s)
      else if c = sep ∧ depth = 0 then [] :: partsFrom sep none depth s
      else addToFirst c (partsFrom sep none depth s)

/-- The parts between the separators outside quotes and brackets. -/
def splitTopLevel (sep : Char) (s : Text) : List Text :=
  partsFrom sep none 0 s

end SignalLab.Text
