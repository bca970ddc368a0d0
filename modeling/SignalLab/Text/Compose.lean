import SignalLab.Text.Basic
import SignalLab.Text.ComposeTable

/-!
# One spelling per name — compatibility composition

Two names that differ only in how their characters are encoded are the same name: full-width
letters are letters, ligatures are their letters, and a letter followed by its accent is the
accented letter.  `normalizeName` chooses one spelling, in three steps: every character is
replaced by its decomposition, runs of combining marks are put into the order of their classes,
and what can be composed is composed again.  ASCII text is its own normal form.
-/

namespace SignalLab.Text

/-! ## Hangul syllables -/

/-- The leading consonant, vowel and trailing consonant of a Hangul syllable. -/
def decomposeHangul? (c : Char) : Option Text :=
  let n := c.toNat
  if 0xAC00 ≤ n ∧ n < 0xAC00 + 11172 then
    let k := n - 0xAC00
    let lead := Char.ofNat (0x1100 + k / 588)
    let vowel := Char.ofNat (0x1161 + k % 588 / 28)
    if k % 28 = 0 then some [lead, vowel]
    else some [lead, vowel, Char.ofNat (0x11A7 + k % 28)]
  else none

/-- The syllable of a consonant and a vowel, or of an open syllable and a closing consonant. -/
def composeHangul? (a b : Char) : Option Char :=
  let m := a.toNat
  let n := b.toNat
  if 0x1100 ≤ m ∧ m < 0x1113 ∧ 0x1161 ≤ n ∧ n < 0x1176 then
    some (Char.ofNat (0xAC00 + ((m - 0x1100) * 21 + (n - 0x1161)) * 28))
  else if 0xAC00 ≤ m ∧ m < 0xAC00 + 11172 ∧ (m - 0xAC00) % 28 = 0 ∧ 0x11A7 < n ∧ n < 0x11C3 then
    some (Char.ofNat (m + (n - 0x11A7)))
  else none

/-! ## Decomposing -/

/-- The compatibility decomposition of one character. -/
def decompose (c : Char) : Text :=
  if c.toNat < 0x80 then [c]
  else
    match decomposeHangul? c with
    | some s => s
    | none =>
      (decompositionBlocks.findSome? fun (start, block) =>
        if start ≤ c.toNat then (splitAt ' ' block.toList)[c.toNat - start]? else none).getD [c]

/-- The combining class of a character; zero for one that stands by itself. -/
def combiningClass (c : Char) : Nat :=
  match combiningRuns.find? fun (start, size, _) => start ≤ c.toNat && c.toNat < start + size with
  | some (_, _, k) => k
  | none => 0

/-- Puts a mark behind the marks whose class is at most its own. -/
def insertMark (c : Char) : Text → Text
  | [] => [c]
  | d :: s =>
    if combiningClass d ≤ combiningClass c then d :: insertMark c s else c :: d :: s

/-- Sorts every run of combining marks by class; marks of one class keep their order. -/
def orderMarks (s : Text) : Text :=
  go [] s
where
  /-- `marks` is the sorted run of marks read so far. -/
  go (marks : Text) : Text → Text
    | [] => marks
    | c :: s =>
      if combiningClass c = 0 then marks ++ c :: go [] s else go (insertMark c marks) s

/-! ## Composing -/

/-- The entry of a list of three-character groups that begins with `a` and `b`. -/
def lookupPair (a b : Char) : List Text → Option Char
  | [] => none
  | [x, y, c] :: rest => if x = a ∧ y = b then some c else lookupPair a b rest
  | _ :: rest => lookupPair a b rest

/-- The character that `a` and `b` compose to. -/
def composePair? (a b : Char) : Option Char :=
  match composeHangul? a b with
  | some c => some c
  | none => lookupPair a b (compositionPairs.flatMap fun block => splitAt ' ' block.toList)

/-- Composes `base` with the marks after it.  A mark is blocked when a mark kept before it has no
smaller class, and a starter is composed only if nothing was kept in between. -/
def composeFrom (base : Char) (kept : Text) : Text → Text
  | [] => base :: kept
  | c :: s =>
    let k := combiningClass c
    let free := match kept.getLast? with
      | none => true
      | some d => combiningClass d < k
    match if free then composePair? base c else none with
    | some d => composeFrom d kept s
    | none => if k = 0 then base :: kept ++ composeFrom c [] s else composeFrom base (kept ++ [c]) s

/-- Composes a decomposed and ordered text. -/
def compose (s : Text) : Text :=
  match s with
  | [] => []
  | c :: s => composeFrom c [] s

/-- The one spelling of a name. -/
def normalizeName (s : Text) : Text :=
  if s.all fun c => c.toNat < 0x80 then s else compose (orderMarks (s.flatMap decompose))

end SignalLab.Text
