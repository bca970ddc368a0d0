import SignalLab.Text.Basic

/-!
# Quoted text — a text shown between quotes, as messages show it

The quote is `'`, or `"` if the text holds the former and not the latter.  The quote itself, the
backslash and line feed, carriage return and tab are written with a backslash; characters that are
not printable by the hexadecimal digits of their code point.
-/

namespace SignalLab.Text

/-- `n` in lower-case hexadecimal, with zeros in front up to the given width. -/
def ofNatHex (width n : Nat) : Text :=
  let digits := Nat.toDigits 16 n
  List.replicate (width - digits.length) '0' ++ digits

/-- A code point written by its hexadecimal digits: two, four or eight of them. -/
def escapeByCode (c : Char) : Text :=
  let n := c.toNat
  if n < 0x100 then '\\' :: 'x' :: ofNatHex 2 n
  else if n < 0x10000 then '\\' :: 'u' :: ofNatHex 4 n
  else '\\' :: 'U' :: ofNatHex 8 n

/-- One character inside quotes; `shown` says which characters stand for themselves. -/
def quoteChar (quote : Char) (shown : Char → Bool) (c : Char) : Text :=
  if c = quote ∨ c = '\\' then ['\\', c]
  else if c = '\n' then ['\\', 'n']
  else if c = '\r' then ['\\', 'r']
  else if c = '\t' then ['\\', 't']
  else if shown c then [c]
  else escapeByCode c

/-- The quote that needs fewer escapes. -/
def quoteFor (s : Text) : Char :=
  if s.contains '\'' && !s.contains '"' then '"' else '\''

/-- A text between quotes, with every printable character as itself. -/
def quoted (s : Text) : Text :=
  let quote := quoteFor s
  quote :: s.flatMap (quoteChar quote isPrintable) ++ [quote]

/-- A text between quotes, in ASCII only. -/
def quotedAscii (s : Text) : Text :=
  let quote := quoteFor s
  quote :: s.flatMap (quoteChar quote fun c => c.toNat < 0x80 && isPrintable c) ++ [quote]

end SignalLab.Text
