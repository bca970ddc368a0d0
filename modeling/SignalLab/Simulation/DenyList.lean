import SignalLab.Text.Pattern

/-!
# The deny list — calls and shell escapes that a simulated program must not show

A call of a denied name is neutralized by a word in front of the name, and the blanks before its
parenthesis are dropped.  A name counts as called only where it is not part of a longer word and not
a member of something.  A line whose first character behind blanks and tabs is an exclamation mark
is a shell escape; the rest of the line is replaced by a marker.

`sanitize` does both, `blockedCalls` lists the denied names that are called.  A text stays as it is
under `sanitize` just when it has neither.
-/

namespace SignalLab.DenyList

/-- Names that start processes or evaluate texts. -/
def executionNames : List String := ["system", "exec", "eval", "feval"]

/-- Names that reach files. -/
def fileNames : List String :=
  ["cd", "fopen", "fwrite", "fprintf", "fread", "readdir", "mkdir", "rmdir", "unlink"]

/-- The denied names. -/
def names : List String := executionNames ++ fileNames

/-- Whether a call may begin after the given character. -/
def mayBegin (before : Option Char) : Bool :=
  !before.any fun c => Text.isWordChar c || c == '.'

/-- What follows the parenthesis of a call of `name` that begins at the front. -/
def callAt? (name : String) (before : Option Char) (s : Text) : Option Text :=
  if mayBegin before then Text.afterCall? name s else none

/-! ## Calls -/

/-- The word put in front of a denied name. -/
def blockedLead : Text := "BLOCKED_"

/-- The neutralized beginning of a call. -/
def blockedCall (name : String) : Text :=
  blockedLead ++ name ++ ['(']

theorem length_of_callAt? {name : String} {before : Option Char} {s rest : Text}
    (h : callAt? name before s = some rest) : rest.length < s.length := by
  unfold callAt? at h
  split at h
  · exact Text.length_of_afterCall? h
  · cases h

/-- Neutralizes the calls of a name in a text that follows the given character. -/
def blockFrom (name : String) (before : Option Char) (s : Text) : Text :=
  match s with
  | [] => []
  | c :: s =>
    match _h : callAt? name before (c :: s) with
    | some rest => blockedCall name ++ blockFrom name (some '(') rest
    | none => c :: blockFrom name (some c) s
termination_by s.length
decreasing_by
  · exact length_of_callAt? _h
  · simp

/-- Neutralizes the calls of a name. -/
def block (name : String) (s : Text) : Text :=
  blockFrom name none s

/-- Whether a name is called. -/
def isCalled (name : String) (s : Text) : Bool :=
  (Text.search (callAt? name) none s).isSome

/-- The denied names that are called. -/
def blockedCalls (s : Text) : List String :=
  names.filter fun name => isCalled name s

/-! ## Shell escapes -/

/-- What a shell escape is replaced by. -/
def escapeMarker : Text := "BLOCKED_SYSTEM_COMMAND"

/-- The blanks and tabs at the front. -/
def indentation (line : Text) : Text :=
  line.takeWhile fun c => c = ' ' ∨ c = '\t'

/-- Whether a line is a shell escape. -/
def isShellEscape (line : Text) : Bool :=
  (line.drop (indentation line).length).head? = some '!'

/-- A line without its shell escape. -/
def markEscape (line : Text) : Text :=
  if isShellEscape line then indentation line ++ escapeMarker else line

/-- A text without shell escapes; lines end at line feeds only. -/
def markEscapes (s : Text) : Text :=
  Text.join ['\n'] ((Text.splitAt '\n' s).map markEscape)

/-! ## Both -/

/-- A text without shell escapes and without calls of denied names. -/
def sanitize (s : Text) : Text :=
  names.foldl (fun s name => block name s) (markEscapes s)

end SignalLab.DenyList
