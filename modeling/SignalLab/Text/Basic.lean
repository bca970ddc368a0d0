import SignalLab.Text.CharTable

/-!
# Text — characters, their classes, and trimming

Program text is a list of characters, so that every scanner of this library is a structural
recursion.  This file fixes the classes of characters the scanners ask about:

  * `isBlank` — white space, the characters that trimming removes;
  * `isLineBreak` — the characters that end a line;
  * `isAlphanumeric`, `isWordChar` — letters, digits and other numerals, and these with `_`;
  * `digitValue?` — the decimal digits of every script;
  * `isNameStart`, `isNameContinue`, `isPrintable`.

Below U+0080 each class is the familiar ASCII one; beyond it the tables of
`SignalLab.Text.CharTable` decide.
-/

namespace SignalLab

/-- A text is its list of characters. -/
abbrev Text := List Char

/-- A string literal stands for the text of its characters. -/
instance : Coe String Text := ⟨String.toList⟩

namespace Text

/-! ## Classes of characters -/

/-- Membership in the class with the given bounds: an odd number of them are at most `c`. -/
def inClass (bounds : List Nat) (c : Char) : Bool :=
  bounds.countP (· ≤ c.toNat) % 2 == 1

/-- White space: the ASCII blanks and separators, and the spaces of the other scripts. -/
def isBlank (c : Char) : Bool :=
  let n := c.toNat
  (9 ≤ n && n ≤ 13) || (28 ≤ n && n ≤ 32) || n == 0x85 || n == 0xA0 || n == 0x1680 ||
  (0x2000 ≤ n && n ≤ 0x200A) || n == 0x2028 || n == 0x2029 || n == 0x202F || n == 0x205F ||
  n == 0x3000

/-- The characters that end a line. -/
def isLineBreak (c : Char) : Bool :=
  let n := c.toNat
  (10 ≤ n && n ≤ 13) || (28 ≤ n && n ≤ 30) || n == 0x85 || n == 0x2028 || n == 0x2029

/-- Letters, digits and other numerals of every script. -/
def isAlphanumeric (c : Char) : Bool :=
  if c.toNat < 0x80 then c.isAlphanum else inClass alphanumericBounds c

/-- Characters of a word: alphanumeric ones and the underscore. -/
def isWordChar (c : Char) : Bool :=
  c == '_' || isAlphanumeric c

/-- ASCII letters and the underscore. -/
def isAsciiNameStart (c : Char) : Bool :=
  c == '_' || c.isAlpha

/-- The value of a decimal digit of any script. -/
def digitValue? (c : Char) : Option Nat :=
  if c.toNat < 0x80 then
    if c.isDigit then some (c.toNat - '0'.toNat) else none
  else
    (decimalZeros.find? fun z => z ≤ c.toNat && c.toNat < z + 10).map (c.toNat - ·)

/-- Decimal digits of every script. -/
def isDecimalDigit (c : Char) : Bool :=
  (digitValue? c).isSome

/-- Characters that may begin a name in an expression. -/
def isNameStart (c : Char) : Bool :=
  if c.toNat < 0x80 then isAsciiNameStart c else inClass nameStartBounds c

/-- Characters that may continue a name in an expression. -/
def isNameContinue (c : Char) : Bool :=
  if c.toNat < 0x80 then isAsciiNameStart c || c.isDigit else inClass nameContinueBounds c

/-- Characters that a quoted text shows as themselves. -/
def isPrintable (c : Char) : Bool :=
  if c.toNat < 0x80 then 0x20 ≤ c.toNat && c.toNat < 0x7F else inClass printableBounds c

/-! ## Trimming and searching -/

/-- Removes the blanks at the front. -/
def trimLeft (s : Text) : Text :=
  s.dropWhile isBlank

/-- Removes the blanks at the back. -/
def trimRight (s : Text) : Text :=
  (s.reverse.dropWhile isBlank).reverse

/-- Removes the blanks at both ends. -/
def trim (s : Text) : Text :=
  trimRight (trimLeft s)

/-- Holds of a text of blanks only. -/
def isBlankText (s : Text) : Bool :=
  s.all isBlank

/-- The rest of `s` after `lead`, if `s` begins with it. -/
def after? (lead s : Text) : Option Text :=
  if lead.isPrefixOf s then some (s.drop lead.length) else none

/-- Whether `part` occurs somewhere in `s`. -/
def includes (part : Text) : Text → Bool
  | [] => part.isEmpty
  | c :: s => part.isPrefixOf (c :: s) || includes part s

/-- The parts between the occurrences of `sep`: one more than there are occurrences. -/
def splitAt (sep : Char) (s : Text) : List Text :=
  s.splitOn sep

/-- The texts in order with `sep` between neighbours. -/
def join (sep : Text) (parts : List Text) : Text :=
  sep.intercalate parts

/-- The maximal runs of characters that are not blank. -/
def words (s : Text) : List Text :=
  go [] s
where
  /-- `word` holds, in reverse, what has been read of the current run. -/
  go (word : Text) : Text → List Text
    | [] => if word.isEmpty then [] else [word.reverse]
    | c :: s =>
      if isBlank c then
        if word.isEmpty then go [] s else word.reverse :: go [] s
      else go (c :: word) s

/-- Replaces each occurrence of `a` by the text `b`. -/
def substitute (a : Char) (b : Text) (s : Text) : Text :=
  s.flatMap fun c => if c = a then b else [c]

/-- Replaces each adjacent pair `a b`, found from left to right, by `r`. -/
def substitutePair (a b : Char) (r : Char) : Text → Text
  | [] => []
  | [c] => [c]
  | c :: d :: s =>
    if c = a ∧ d = b then r :: substitutePair a b r s
    else c :: substitutePair a b r (d :: s)

/-- ASCII letters in lower case, all else unchanged. -/
def lowerAscii (s : Text) : Text :=
  s.map Char.toLower

end Text

/-- The decimal digits of a natural number. -/
def Text.ofNat (n : Nat) : Text :=
  Nat.toDigits 10 n

/-- The decimal digits of an integer, after a minus sign if it is negative. -/
def Text.ofInt : Int → Text
  | .ofNat n => Text.ofNat n
  | .negSucc n => '-' :: Text.ofNat (n + 1)

end SignalLab
