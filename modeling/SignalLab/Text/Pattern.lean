import SignalLab.Text.Basic

/-!
# Patterns — names and calls inside a text

Programs are classified by the names and calls that occur in them.  A name is an ASCII letter or
underscore and the word characters after it; a call is a word, blanks, and an opening parenthesis.
A call counts only where its word begins, that is not directly after a word character.
-/

namespace SignalLab.Text

/-! ## At the front -/

/-- The name at the front, and the rest. -/
def takeIdentifier? : Text → Option (Text × Text)
  | [] => none
  | c :: s =>
    if isAsciiNameStart c then some (c :: s.takeWhile isWordChar, s.dropWhile isWordChar) else none

/-- What follows a character at the front, blanks before it aside. -/
def afterBlanks? (c : Char) (s : Text) : Option Text :=
  match trimLeft s with
  | [] => none
  | d :: rest => if d = c then some rest else none

/-- What follows the opening parenthesis of a call of `word` at the front. -/
def afterCall? (word : String) (s : Text) : Option Text :=
  match after? word s with
  | some rest => afterBlanks? '(' rest
  | none => none

theorem length_of_afterBlanks? {c : Char} {s rest : Text} (h : afterBlanks? c s = some rest) :
    rest.length < s.length := by
  unfold afterBlanks? at h
  have hle : (trimLeft s).length ≤ s.length := (List.dropWhile_suffix _).length_le
  split at h
  · cases h
  · rename_i heq
    split at h
    · cases h
      rw [heq] at hle
      exact hle
    · cases h

theorem length_of_afterCall? {word : String} {s rest : Text} (h : afterCall? word s = some rest) :
    rest.length < s.length := by
  unfold afterCall? after? at h
  split at h
  · rename_i heq
    have hlt := length_of_afterBlanks? h
    split at heq
    · cases heq
      rw [List.length_drop] at hlt
      omega
    · cases heq
  · cases h

/-- A name in blanks, closed by a parenthesis, at the front, and the rest. -/
def takeNamedArgument? (s : Text) : Option (Text × Text) := do
  let (name, rest) ← takeIdentifier? (trimLeft s)
  let rest ← afterBlanks? ')' rest
  some (name, rest)

/-! ## Anywhere -/

/-- Whether a word may begin after the given character. -/
def isBoundary (before : Option Char) : Bool :=
  !before.any isWordChar

/-- The first place, from left to right, at which `f` finds something; `f` sees the character
before the place and the text from there on. -/
def search {α : Type} (f : Option Char → Text → Option α) (before : Option Char) :
    Text → Option α
  | [] => f before []
  | c :: s =>
    match f before (c :: s) with
    | some found => some found
    | none => search f (some c) s

/-- The first place that begins a word and at which `f` finds something. -/
def searchWord {α : Type} (f : Text → Option α) (s : Text) : Option α :=
  search (fun before rest => if isBoundary before then f rest else none) none s

/-- What `f` finds at all places that begin a word, from left to right. -/
def searchWords {α : Type} (f : Text → Option α) (before : Option Char) : Text → List α
  | [] => []
  | c :: s =>
    let rest := searchWords f (some c) s
    match if isBoundary before then f (c :: s) else none with
    | some found => found :: rest
    | none => rest

/-- Whether one of the words is called somewhere. -/
def hasCall (names : List String) (s : Text) : Bool :=
  (searchWord (fun rest => names.findSome? fun word => afterCall? word rest) s).isSome

end SignalLab.Text
