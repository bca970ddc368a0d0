import SignalLab.Text.TopLevel

/-!
# Statements — the statements of a source line

A semicolon outside quotes and brackets ends a statement, a percent sign outside quotes the line.
Inside a quoted stretch a doubled quote stands for itself.  An apostrophe directly after a word
character, a closing bracket, a dot or another apostrophe is a transpose and opens no quotes; so is
one with nothing before it in its statement.
-/

namespace SignalLab.Statement

open Text

/-- Whether an apostrophe after the given character, the last of the statement so far, is a
transpose. -/
def isTranspose (before : Option Char) : Bool :=
  match before with
  | none => true
  | some c => isAlphanumeric c || "_)]\x7d.'".toList.contains c

/-- The pieces of a line between the semicolons that end statements, up to a comment.  The line
begins inside the given quote, if any, at the given bracket depth, and after the given character of
the current piece. -/
def piecesFrom (quote : Option Char) (depth : Nat) (before : Option Char) : Text → List Text
  | [] => [[]]
  | c :: s =>
    match quote with
    | some q =>
      if c = q then
        match s with
        | d :: rest =>
          if d = q then addToFirst c (addToFirst d (piecesFrom (some q) depth (some d) rest))
          else addToFirst c (piecesFrom none depth (some c) (d :: rest))
        | [] => [[c]]
      else addToFirst c (piecesFrom (some q) depth (some c) s)
    | none =>
      if isQuote c then
        let quote := if c = '\'' && isTranspose before then none else some c
        addToFirst c (piecesFrom quote depth (some c) s)
      else if c = '%' then [[]]
      else if isOpening c then addToFirst c (piecesFrom none (depth + 1) (some c) s)
      else if isClosing c then addToFirst c (piecesFrom none (depth - 1) (some c) s)
      else if c = ';' ∧ depth = 0 then [] :: piecesFrom none depth none s
      else addToFirst c (piecesFrom none depth (some c) s)

/-- The pieces of a line, as they are written. -/
def pieces (line : Text) : List Text :=
  piecesFrom none 0 none line

/-- The statements of a line: its pieces that are not blank, trimmed. -/
def split (line : Text) : List Text :=
  (pieces line).filterMap fun piece => if isBlankText piece then none else some piece.trim

end SignalLab.Statement
