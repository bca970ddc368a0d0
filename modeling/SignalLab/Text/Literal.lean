import SignalLab.Text.TopLevel

/-!
# Quoted literals — texts between quotes, and their escapes

A literal is a quote, its contents with that quote doubled, and the quote again.
`takeLiteral?` reads the literal at the front of a text; `unescape` replaces the backslash escapes
of a format.
-/

namespace SignalLab.Text

/-- The contents of a literal up to its closing quote, and the rest. -/
def literalBody? (quote : Char) : Text → Option (Text × Text)
  | [] => none
  | [c] => if c = quote then some ([], []) else none
  | c :: d :: s =>
    if c = quote then
      if d = quote then (literalBody? quote s).map fun (body, rest) => (quote :: body, rest)
      else some ([], d :: s)
    else (literalBody? quote (d :: s)).map fun (body, rest) => (c :: body, rest)

/-- The contents of the literal at the front of a text, blanks before it aside, and the rest. -/
def takeLiteral? (s : Text) : Option (Text × Text) :=
  match trimLeft s with
  | [] => none
  | c :: s => if isQuote c then literalBody? c s else none

/-- What a backslash and a letter stand for; most letters keep their backslash. -/
def escapeValue (c : Char) : Text :=
  if c = 'n' then ['\n']
  else if c = 't' then ['\t']
  else if c = '\\' then ['\\']
  else if c = 'r' ∨ c = 'a' then []
  else ['\\', c]

/-- Replaces the escapes of a text from left to right; a backslash before a line feed or at the end
stays. -/
def unescape : Text → Text
  | [] => []
  | [c] => [c]
  | c :: d :: s =>
    if c = '\\' ∧ d ≠ '\n' then escapeValue d ++ unescape s
    else c :: unescape (d :: s)

end SignalLab.Text
