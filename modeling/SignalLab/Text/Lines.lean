import SignalLab.Text.Basic

/-!
# Lines — cutting a text at its line breaks

A line ends at any of the characters of `Text.isLineBreak`; a carriage return with the line feed
after it is one break.  A break at the very end opens no further line.
-/

namespace SignalLab.Text

/-- The lines of a text, without their breaks. -/
def lines (s : Text) : List Text :=
  go [] s
where
  /-- `line` holds, in reverse, what has been read of the current line. -/
  go (line : Text) : Text → List Text
    | [] => if line.isEmpty then [] else [line.reverse]
    | '\r' :: '\n' :: s => line.reverse :: go [] s
    | c :: s => if isLineBreak c then line.reverse :: go [] s else go (c :: line) s

end SignalLab.Text
