import SignalLab.Expression.Numeral
import SignalLab.Text.CharacterName
import SignalLab.Text.Compose

/-!
# Lexer — the tokens of an expression's text

An expression is one logical line: line breaks inside brackets and after a backslash do not count,
comments run from `#` to the end of the line, and nothing but blanks and comments may follow the
line.  Names are brought to one spelling.  Text literals are checked (escapes, ASCII bytes) and then
forgotten, since no expression has a text as its value; the fields of a template text are scanned
like expressions in parentheses.

Every function that calls itself on a shorter text takes a bound for the number of steps; the
length of the text is enough.
-/

namespace SignalLab.Expression

/-! ## Lines -/

/-- Blanks between the tokens of a line. -/
def isGap (c : Char) : Bool :=
  c == ' ' || c == '\t' || c == '\x0c'

/-- Writes each line break as a single line feed. -/
def unifyLineBreaks : Text → Text
  | '\r' :: '\n' :: s => '\n' :: unifyLineBreaks s
  | '\r' :: s => '\n' :: unifyLineBreaks s
  | c :: s => c :: unifyLineBreaks s
  | [] => []

/-- Drops the rest of a line, but not its break. -/
def dropLine (s : Text) : Text :=
  s.dropWhile (· != '\n')

/-- The indentation at which the first token of a line stands.  It is the one in front of the first
backslash that is not at the margin, or else the one in front of the token. -/
def indentation (held column : Nat) : Nat :=
  if held = 0 then column else held

/-- Drops the blank lines and comment lines in front of the next token, which must not be indented;
nothing is left if there is no token.  `column` is the indentation read so far, `held` that in front
of a backslash before, and `comment` says whether the text begins inside a comment.  A backslash at
the end of a line joins it to the next one, which must be there. -/
def nextToken? (held column : Nat) (comment : Bool) : Text → Option Text
  | [] => some []
  | c :: s =>
    if c = '\n' then nextToken? 0 0 false s
    else if comment then nextToken? 0 0 true s
    else if c = '#' then nextToken? 0 0 true s
    else if c = '\x0c' then nextToken? held 0 false s
    else if isGap c then nextToken? held (column + 1) false s
    else if c = '\\' then
      match s with
      | '\n' :: d :: s => nextToken? (indentation held column) column false (d :: s)
      | _ => none
    else if indentation held column = 0 then some (c :: s)
    else none

/-! ## Text literals -/

/-- How a text literal is marked. -/
structure TextMark where
  bytes : Bool := false
  raw : Bool := false
  template : Bool := false
  unicode : Bool := false

/-- The mark with one more letter, if the letters go together. -/
def TextMark.add? (m : TextMark) (c : Char) : Option TextMark :=
  match c.toLower with
  | 'b' => if m.bytes || m.unicode || m.template then none else some { m with bytes := true }
  | 'u' =>
    if m.bytes || m.unicode || m.raw || m.template then none else some { m with unicode := true }
  | 'r' => if m.raw || m.unicode then none else some { m with raw := true }
  | 'f' => if m.template || m.bytes || m.unicode then none else some { m with template := true }
  | _ => none

/-- The mark of a text literal at the front, its quote, and what follows the quote. -/
def takeTextMark? (m : TextMark) : Text → Option (TextMark × Char × Text)
  | [] => none
  | c :: s =>
    if c = '\'' ∨ c = '"' then some (m, c, s)
    else
      match m.add? c with
      | some m => takeTextMark? m s
      | none => none

/-- The contents of a literal closed by one quote, and the rest. -/
def takeShortText? (quote : Char) : Text → Option (Text × Text)
  | [] => none
  | '\\' :: c :: s => (takeShortText? quote s).map fun (body, rest) => ('\\' :: c :: body, rest)
  | c :: s =>
    if c = quote then some ([], s)
    else if c = '\n' then none
    else (takeShortText? quote s).map fun (body, rest) => (c :: body, rest)

/-- The contents of a literal closed by three quotes, and the rest. -/
def takeLongText? (quote : Char) : Text → Option (Text × Text)
  | [] => none
  | '\\' :: c :: s => (takeLongText? quote s).map fun (body, rest) => ('\\' :: c :: body, rest)
  | c :: s =>
    if [quote, quote, quote].isPrefixOf (c :: s) then some ([], s.drop 2)
    else (takeLongText? quote s).map fun (body, rest) => (c :: body, rest)

/-- The contents of a literal after its first quote, and the rest. -/
def takeText? (quote : Char) (s : Text) : Option (Text × Text) :=
  if [quote, quote].isPrefixOf s then takeLongText? quote (s.drop 2) else takeShortText? quote s

/-- Whether the first `n` characters are hexadecimal digits. -/
def hasHexDigits (n : Nat) (s : Text) : Bool :=
  (s.take n).length == n && (s.take n).all isHexDigit

/-- Whether the name of a character stands between braces at the front. -/
def hasCharacterName : Text → Bool
  | '\x7b' :: s =>
    let name := s.takeWhile (· != '\x7d')
    (s.drop name.length).head? == some '\x7d' && Text.isCharacterName name
  | _ => false

/-- Whether the escapes of a literal without raw mark are complete. -/
def hasValidEscapes : Text → Bool
  | [] => true
  | '\\' :: c :: s =>
    let complete := match c with
      | 'x' => hasHexDigits 2 s
      | 'u' => hasHexDigits 4 s
      | 'U' => hasHexDigits 8 s && numberInBase 16 (s.take 8) ≤ 0x10FFFF
      | 'N' => hasCharacterName s
      | _ => true
    complete && hasValidEscapes s
  | _ :: s => hasValidEscapes s

/-- Whether the escapes of a bytes literal are complete. -/
def hasValidByteEscapes : Text → Bool
  | [] => true
  | '\\' :: c :: s => (c != 'x' || hasHexDigits 2 s) && hasValidByteEscapes s
  | _ :: s => hasValidByteEscapes s

/-- Whether the contents of a literal that is no template are well formed. -/
def TextMark.accepts (m : TextMark) (body : Text) : Bool :=
  if m.bytes then
    body.all (fun c => c.toNat < 0x80) && (m.raw || hasValidByteEscapes body)
  else m.raw || hasValidEscapes body

/-! ## Template texts -/

/-- The fixed part of a template up to the next field or end, and the rest.  At the top level a
doubled brace stands for a brace, and a closing brace alone is refused. -/
def takeFixedPart? (raw nested : Bool) : Nat → Text → Option (Text × Text)
  | 0, _ => none
  | _ + 1, [] => some ([], [])
  | n + 1, c :: s =>
    let keep (lead rest : Text) :=
      (takeFixedPart? raw nested n rest).map fun (body, rest) => (lead ++ body, rest)
    if c = '\\' ∧ !raw then
      match s with
      | 'N' :: '\x7b' :: s =>
        let name := s.takeWhile (· != '\x7d')
        keep ('\\' :: 'N' :: '\x7b' :: (s.take (name.length + 1))) (s.drop (name.length + 1))
      | '\x7b' :: _ => keep [c] s
      | '\x7d' :: _ => keep [c] s
      | d :: s => keep [c, d] s
      | [] => keep [c] []
    else if c = '\x7b' ∨ c = '\x7d' then
      if !nested && s.head? = some c then keep [c] (s.drop 1)
      else if !nested && c = '\x7d' then none
      else some ([], c :: s)
    else keep [c] s

/-- Whether a bracket closes the one opened last. -/
def closesBracket (opening closing : Char) : Bool :=
  (opening == '(' && closing == ')') || (opening == '[' && closing == ']') ||
  (opening == '\x7b' && closing == '\x7d')

/-- The text of a field's expression, and the rest from the character that ends it.  `brackets`
holds the open brackets. -/
def takeFieldText? (brackets : List Char) : Nat → Text → Option (Text × Text)
  | 0, _ => none
  | _ + 1, [] => none
  | n + 1, c :: s =>
    let keep (brackets : List Char) (lead rest : Text) :=
      (takeFieldText? brackets n rest).map fun (body, rest) => (lead ++ body, rest)
    let next := s.head?
    if c = '\\' ∨ c = '#' then none
    else if c = '\'' ∨ c = '"' then
      if [c, c].isPrefixOf s then
        match takeLongText? c (s.drop 2) with
        | some (body, rest) =>
          if body.contains '\\' then none
          else keep brackets (c :: c :: c :: body ++ [c, c, c]) rest
        | none => none
      else
        let body := s.takeWhile (· != c)
        if body.length < s.length ∧ !body.contains '\\' then
          keep brackets (c :: body ++ [c]) (s.drop (body.length + 1))
        else none
    else if c = '(' ∨ c = '[' ∨ c = '\x7b' then
      if brackets.length < 200 then keep (c :: brackets) [c] s else none
    else if brackets.isEmpty ∧ (c = '!' ∨ c = ':' ∨ c = '\x7d' ∨ c = '=') then
      if next = some '=' ∧ (c = '!' ∨ c = '=') then keep brackets [c, '='] (s.drop 1)
      else some ([], c :: s)
    else if brackets.isEmpty ∧ (c = '<' ∨ c = '>') ∧ next = some '=' then
      keep brackets [c, '='] (s.drop 1)
    else if c = ')' ∨ c = ']' ∨ c = '\x7d' then
      match brackets with
      | opening :: brackets => if closesBracket opening c then keep brackets [c] s else none
      | [] => none
    else keep brackets [c] s

/-- What follows the self-documenting mark of a field. -/
def dropEqualsMark : Text → Text
  | '=' :: s => s.dropWhile fun c => isGap c || c == '\n' || c == '\x0b'
  | s => s

/-- What follows the conversion of a field, which has to be one of three letters. -/
def dropConversion? : Text → Option Text
  | '!' :: c :: s => if c = 's' ∨ c = 'r' ∨ c = 'a' then some s else none
  | ['!'] => none
  | s => some s

/-- The texts of the fields of a template, in order, and the rest, which is empty at the top level
and begins with the closing brace inside a field.  Fields nest two deep. -/
def takeFields? (raw : Bool) (nesting : Nat) : Nat → Text → Option (List Text × Text)
  | 0, _ => none
  | n + 1, s => do
    let (fixed, s) ← takeFixedPart? raw (nesting ≠ 0) (s.length + 1) s
    if !raw && !hasValidEscapes fixed then none
    match s with
    | '\x7b' :: s =>
      if 2 ≤ nesting then none
      let (field, s) ← takeFieldText? [] (s.length + 1) s
      if field.all fun c => isGap c || c == '\n' then none
      let s ← dropConversion? (dropEqualsMark s)
      let (inner, s) ← match s with
        | ':' :: s => takeFields? raw (nesting + 1) n s
        | s => some ([], s)
      match s with
      | '\x7d' :: s =>
        let (others, rest) ← takeFields? raw nesting n s
        some (field :: inner ++ others, rest)
      | _ => none
    | rest => some ([], rest)

/-- The texts of all fields of a template. -/
def templateFields? (raw : Bool) (body : Text) : Option (List Text) :=
  match takeFields? raw 0 (body.length + 1) body with
  | some (fields, []) => some fields
  | _ => none

/-! ## The scanner -/

/-- Brackets may be nested this deep. -/
def maxBracketDepth : Nat := 200

/-- The name at the front: its characters as written, and the rest. -/
def takeName (s : Text) : Text × Text :=
  (s.takeWhile isNameLike, s.dropWhile isNameLike)

/-- The token of a word as it is written. -/
def wordToken? (word : Text) : Option Token :=
  match keyword? word with
  | some k => some (.keyword k)
  | none =>
    match word with
    | [] => none
    | c :: s =>
      if Text.isNameStart c && s.all Text.isNameContinue then some (.name (Text.normalizeName word))
      else none

/-- Whether a numeral begins here. -/
def beginsNumeral : Text → Bool
  | '.' :: c :: _ => c.isDigit
  | c :: _ => c.isDigit
  | [] => false

/-- The tokens of a text, inside `depth` brackets. -/
def scan : Nat → Nat → Text → Option (List Token)
  | 0, _, _ => none
  | _ + 1, depth, [] => if depth = 0 then some [] else none
  | n + 1, depth, c :: s =>
    if isGap c then scan n depth s
    else if c = '#' then scan n depth (dropLine s)
    else if c = '\n' then
      if 0 < depth then scan n depth s else if nextToken? 0 0 false s = some [] then some [] else none
    else if c = '\\' then
      match s with
      | '\n' :: d :: s => scan n depth (d :: s)
      | _ => none
    else if beginsNumeral (c :: s) then do
      let (token, s) ← readNumeral? (c :: s)
      let tokens ← scan n depth s
      some (token :: tokens)
    else
      match takeTextMark? {} (c :: s) with
      | some (mark, quote, s) => do
        let (body, s) ← takeText? quote s
        let token ←
          if mark.template then do
            let fields ← templateFields? mark.raw body
            let fields ← fields.mapM fun field => scan n 0 ('(' :: field ++ [')'])
            some (Token.template fields)
          else if !mark.accepts body then none
          else some (if mark.bytes then Token.bytes else Token.text)
        let tokens ← scan n depth s
        some (token :: tokens)
      | none =>
        if isNameLike c then do
          let (word, s) := takeName (c :: s)
          let token ← wordToken? word
          let tokens ← scan n depth s
          some (token :: tokens)
        else do
          let (symbol, s) ← symbol? (c :: s)
          if symbol.opens && maxBracketDepth ≤ depth then none
          if symbol.closes && depth = 0 then none
          let depth := if symbol.opens then depth + 1 else if symbol.closes then depth - 1 else depth
          let tokens ← scan n depth s
          some (.symbol symbol :: tokens)

/-- The tokens of an expression's text, or nothing if it is not well formed. -/
def tokens? (s : Text) : Option (List Token) :=
  if s.contains '\x00' then none
  else
    match nextToken? 0 0 false (unifyLineBreaks s) with
    | some s => scan (s.length + 1) 0 s
    | none => none

end SignalLab.Expression
