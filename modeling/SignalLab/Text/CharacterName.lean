import SignalLab.Text.NameTable
import SignalLab.Text.Quoted

/-!
# Character names — the names under which a text may ask for a character

A character has its name from one of four sources:

  * a Hangul syllable is named by its sounds, `isSyllableName`;
  * a unified ideograph is named by its code point, `isIdeographName`;
  * some other characters too are named by their code points, `isNumberedName`;
  * all others, and the aliases, are listed, `isListedName`.

The last two are read in letters of either case, the first two in capital letters only.
-/

namespace SignalLab.Text

/-! ## Hangul syllables -/

/-- The sounds that may begin a syllable. -/
def leadingSounds : List String :=
  ["G", "GG", "N", "D", "DD", "R", "M", "B", "BB", "S", "SS", "", "J", "JJ", "C", "K", "T", "P", "H"]

/-- The vowels of syllables. -/
def vowelSounds : List String :=
  ["A", "AE", "YA", "YAE", "EO", "E", "YEO", "YE", "O", "WA", "WAE", "OE", "YO", "U", "WEO", "WE",
   "WI", "YU", "EU", "YI", "I"]

/-- The sounds that may end a syllable. -/
def trailingSounds : List String :=
  ["", "G", "GG", "GS", "N", "NJ", "NH", "D", "L", "LG", "LM", "LB", "LS", "LT", "LP", "LH", "M",
   "B", "BS", "S", "SS", "NG", "J", "C", "K", "T", "P", "H"]

/-- Whether a text is the sounds of a syllable. -/
def isSyllable (s : Text) : Bool :=
  leadingSounds.any fun lead => (after? lead s).any fun s =>
    vowelSounds.any fun vowel => (after? vowel s).any fun s =>
      trailingSounds.any fun trail => trail.toList == s

/-- Whether a text names a Hangul syllable. -/
def isSyllableName (name : Text) : Bool :=
  (after? "HANGUL SYLLABLE " name).any isSyllable

/-! ## Code points -/

/-- The value of a hexadecimal digit that is no small letter. -/
def capitalHexValue? (c : Char) : Option Nat :=
  if c.isDigit then some (c.toNat - '0'.toNat)
  else if 'A' ≤ c ∧ c ≤ 'F' then some (c.toNat - 'A'.toNat + 10)
  else none

/-- The code point written by four or five hexadecimal digits. -/
def codePoint? (s : Text) : Option Nat :=
  if s.length = 4 ∨ s.length = 5 then
    (s.mapM capitalHexValue?).map fun ds => ds.foldl (fun n d => 16 * n + d) 0
  else none

/-- Whether one of the ranges, given by their first and last numbers, has a number. -/
def inRanges (ranges : List (Nat × Nat)) (n : Nat) : Bool :=
  ranges.any fun (first, last) => first ≤ n && n ≤ last

/-- The unified ideographs. -/
def ideographRanges : List (Nat × Nat) :=
  [(0x3400, 0x4DBF), (0x4E00, 0x9FFF), (0x20000, 0x2A6DF), (0x2A700, 0x2B738), (0x2B740, 0x2B81D),
   (0x2B820, 0x2CEA1), (0x2CEB0, 0x2EBE0), (0x30000, 0x3134A)]

/-- Whether a text names a unified ideograph; a zero may stand before four digits. -/
def isIdeographName (name : Text) : Bool :=
  ((after? "CJK UNIFIED IDEOGRAPH-" name).bind codePoint?).any (inRanges ideographRanges)

/-- What the names of numbered characters begin with, and the code points that may follow. -/
def numberedNames : List (String × List (Nat × Nat)) :=
  [("CJK COMPATIBILITY IDEOGRAPH-", [(0xF900, 0xFA6D), (0xFA70, 0xFAD9), (0x2F800, 0x2FA1D)]),
   ("KHITAN SMALL SCRIPT CHARACTER-", [(0x18B00, 0x18CD5)]),
   ("NUSHU CHARACTER-", [(0x1B170, 0x1B2FB)])]

/-- Whether a text in capital letters names a numbered character; no zero stands before its
digits. -/
def isNumberedName (name : Text) : Bool :=
  numberedNames.any fun (lead, ranges) =>
    (after? lead name).any fun digits =>
      digits.head? ≠ some '0' && (codePoint? digits).any (inRanges ranges)

/-! ## Listed names -/

/-- The words of a name, from its entry in the table and the words of the name before. -/
def entryWords (before : List Text) : Text → List Text
  | [] => before
  | digit :: words => before.take (digit.toNat - '0'.toNat) ++ splitAt ' ' words

/-- Whether the entries, the first of them behind the name `before`, list a name. -/
def isListedAfter (name before : List Text) : List Text → Bool
  | [] => false
  | entry :: entries =>
    let words := entryWords before entry
    words == name || isListedAfter name words entries

/-- The entries for a first letter. -/
def nameEntries (first : Char) : List Text :=
  (NameTable.lines first).flatMap fun line => splitAt ',' line.toList

/-- Whether a text in capital letters is listed. -/
def isListedName (name : Text) : Bool :=
  match name with
  | [] => false
  | first :: _ => isListedAfter (splitAt ' ' name) [] (nameEntries first)

/-! ## All names -/

/-- Whether a text names a character. -/
def isCharacterName (name : Text) : Bool :=
  let folded := name.map Char.toUpper
  isSyllableName name || isIdeographName name || isNumberedName folded || isListedName folded

end SignalLab.Text
