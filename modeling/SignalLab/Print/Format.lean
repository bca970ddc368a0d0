import SignalLab.Number.Layout
import SignalLab.Number.Quantity
import SignalLab.Print.Directive
import SignalLab.Print.Error
import SignalLab.Text.Quoted

/-!
# Formats — arguments printed by the directives of a format

The directives take the arguments in order, and all arguments have to be taken.  A conversion makes
an argument a sign, a mark of its base and digits; these are brought to the width with blanks, or
with zeros behind the mark, or with blanks at the end.  What is written is made of symbols, since the
code points of surrogates can be written and are no characters.  The first directive that does not suit
its argument is the error of the whole format.
-/

namespace SignalLab.Print

/-- An argument of a format. -/
inductive Argument where
  | integer (n : Int)
  | real (x : Float)
  | text (s : Text)

/-- A double as an argument: an integer if it is one. -/
def Argument.ofReal (x : Float) : Argument :=
  match Double.parts x with
  | .finite s m q =>
    if Double.isIntegral x then .integer (Double.Rounding.towardZero.integer s m q) else .real x
  | _ => .real x

/-! ## Symbols -/

/-- A symbol of a written text: a character, or one of the surrogates, which come in pairs in other
encodings and are no characters by themselves. -/
inductive Symbol where
  | char (c : Char)
  | surrogate (k : Fin 0x800)
  deriving DecidableEq, Repr

namespace Symbol

/-- The symbol of a code point. -/
def ofCodePoint? (n : Nat) : Option Symbol :=
  if h : n.isValidChar then some (.char (Char.ofNatAux n h))
  else if h : 0xD800 ≤ n ∧ n < 0xE000 then some (.surrogate ⟨n - 0xD800, by omega⟩)
  else none

/-- What stands for a symbol where only characters can stand. -/
def shown : Symbol → Char
  | .char c => c
  | .surrogate _ => '\uFFFD'

end Symbol

/-- The symbols of a text. -/
def symbols (s : Text) : List Symbol :=
  s.map .char

theorem symbols_append (s t : Text) : symbols (s ++ t) = symbols s ++ symbols t :=
  List.map_append

theorem shown_symbols (s : Text) : (symbols s).map Symbol.shown = s := by
  rw [symbols, List.map_map]
  exact List.map_id s

/-! ## Conversions -/

/-- A converted argument, before it is brought to its width. -/
structure Field where
  sign : Text := []
  mark : Text := []
  body : List Symbol
  isNumber : Bool

/-- The sign that a number is written with. -/
def signText (flags : Flags) (negative : Bool) : Text :=
  if negative then ['-'] else if flags.plus then ['+'] else if flags.blank then [' '] else []

/-- The largest precision of an integer. -/
def maxIntegerPrecision : Nat := 2147483644

/-- An integer in a base, with at least as many digits as the precision says. -/
def integerField (flags : Flags) (precision : Option Nat) (mark : Text)
    (digits : Nat → Text) (n : Int) : Except Error Field :=
  let ds := digits n.natAbs
  if maxIntegerPrecision < precision.getD 0 then .error (.format .integerPrecision)
  else
    .ok
      { sign := signText flags (n < 0)
        mark := if flags.alternate then mark else []
        body := symbols (List.replicate (precision.getD 0 - ds.length) '0' ++ ds)
        isNumber := true }

/-- An argument as an integer; a double loses its places behind the point. -/
def Argument.truncated : Argument → Except Error Int
  | .integer n => .ok n
  | .real x => (Double.toInteger .towardZero x).mapError .arithmetic
  | .text _ => .error (.format .numberRequired)

/-- An argument that is an integer. -/
def Argument.exact : Argument → Except Error Int
  | .integer n => .ok n
  | _ => .error (.format .integerRequired)

/-- An argument as a double. -/
def Argument.toReal : Argument → Except Error Float
  | .integer n => (Double.ofInt n).mapError .arithmetic
  | .real x => .ok x
  | .text _ => .error (.format .numberRequired)

/-- The number of places that doubles are written with unless a precision says otherwise. -/
def defaultPrecision : Nat := 6

/-- The precision that a double is laid out with.  The scientific style counts the digit before the
point too, and a count above the largest precision asks for none behind it. -/
def realPrecision (style : Double.Style) (precision : Option Nat) : Nat :=
  let places := precision.getD defaultPrecision
  if style = .scientific ∧ maxPrecision < places + 1 then 0 else places

/-- A double in a style. -/
def realField (flags : Flags) (precision : Option Nat) (style : Double.Style) (upper : Bool)
    (x : Float) : Field :=
  let digits := Double.formatUnsigned style (realPrecision style precision) flags.alternate x
  { sign := signText flags (Double.isNegative x && !x.isNaN)
    body := symbols (if upper then digits.map Char.toUpper else digits)
    isNumber := true }

/-- A text, cut to the precision. -/
def textField (precision : Option Nat) (s : Text) : Field :=
  { body := symbols (match precision with | some n => s.take n | none => s)
    isNumber := false }

/-- An argument as it is shown. -/
def Argument.display : Argument → Text
  | .integer n => Text.ofInt n
  | .real x => Double.text x
  | .text s => s

/-- An argument as it is shown, a text between quotes. -/
def Argument.inspect (quote : Text → Text) : Argument → Text
  | .text s => quote s
  | a => a.display

/-- An argument as a symbol: a text of one character, or a code point. -/
def Argument.symbol : Argument → Except Error Symbol
  | .integer n =>
    if n < 0 then .error (.format .characterRange)
    else
      match Symbol.ofCodePoint? n.toNat with
      | some symbol => .ok symbol
      | none => .error (.format .characterRange)
  | .text [c] => .ok (.char c)
  | _ => .error (.format .characterRequired)

/-- A number in hexadecimal with upper-case digits. -/
def upperHexadecimal (n : Nat) : Text :=
  (Nat.toDigits 16 n).map Char.toUpper

/-- An argument as a conversion writes it. -/
def convert (flags : Flags) (precision : Option Nat) (letter : Char) (a : Argument) :
    Except Error Field :=
  match letter with
  | 'd' | 'i' | 'u' => a.truncated >>= integerField flags precision [] Text.ofNat
  | 'o' => a.exact >>= integerField flags precision ['0', 'o'] (Nat.toDigits 8)
  | 'x' => a.exact >>= integerField flags precision ['0', 'x'] (Nat.toDigits 16)
  | 'X' => a.exact >>= integerField flags precision ['0', 'X'] upperHexadecimal
  | 'f' => a.toReal.map (realField flags precision .fixed false)
  | 'F' => a.toReal.map (realField flags precision .fixed true)
  | 'e' => a.toReal.map (realField flags precision .scientific false)
  | 'E' => a.toReal.map (realField flags precision .scientific true)
  | 'g' => a.toReal.map (realField flags precision .general false)
  | 'G' => a.toReal.map (realField flags precision .general true)
  | 'c' => a.symbol.map fun symbol => { body := [symbol], isNumber := false }
  | 's' => .ok (textField precision a.display)
  | 'r' => .ok (textField precision (a.inspect Text.quoted))
  | 'a' => .ok (textField precision (a.inspect Text.quotedAscii))
  | _ => .error (.format (.unsupported letter))

/-- A field brought to a width. -/
def Field.pad (f : Field) (flags : Flags) (width : Nat) : List Symbol :=
  let fill := width - (f.sign.length + f.mark.length + f.body.length)
  let front := symbols (f.sign ++ f.mark)
  if flags.left then front ++ f.body ++ symbols (List.replicate fill ' ')
  else if flags.zero && f.isNumber then front ++ symbols (List.replicate fill '0') ++ f.body
  else symbols (List.replicate fill ' ') ++ front ++ f.body

/-! ## Directives and formats -/

/-- The integer at the front of the arguments, and the others. -/
def takeStar : List Argument → Except Error (Int × List Argument)
  | [] => .error (.format .missingArgument)
  | .integer n :: args => .ok (n, args)
  | _ :: _ => .error (.format .starType)

/-- The flags and the width of a directive, and the arguments that are left.  A negative argument
asks for blanks at the end, the least of all for no width. -/
def Directive.layout (d : Directive) (args : List Argument) :
    Except Error (Flags × Nat × List Argument) :=
  match d.width with
  | .absent => .ok (d.flags, 0, args)
  | .given n => .ok (d.flags, n, args)
  | .tooLarge => .error (.format .widthTooBig)
  | .argument => do
    let (n, args) ← takeStar args
    if n < -(maxWidth + 1 : Int) ∨ (maxWidth : Int) < n then .error (.format .starRange)
    else if n < 0 then
      .ok ({ d.flags with left := true }, if n.natAbs ≤ maxWidth then n.natAbs else 0, args)
    else .ok (d.flags, n.natAbs, args)

/-- The precision of a directive, and the arguments that are left. -/
def Directive.places (d : Directive) (args : List Argument) :
    Except Error (Option Nat × List Argument) :=
  match d.precision with
  | .absent => .ok (none, args)
  | .given n => .ok (some n, args)
  | .tooLarge => .error (.format .precisionTooBig)
  | .argument => do
    let (n, args) ← takeStar args
    if n < -(maxPrecision + 1 : Int) ∨ (maxPrecision : Int) < n then .error (.format .starRange)
    else .ok (some n.toNat, args)

/-- The letter and the argument of a conversion, and the arguments that are left. -/
def Directive.operand (d : Directive) (args : List Argument) :
    Except Error (Char × Argument × List Argument) :=
  match d.conversion, args with
  | none, _ => .error (.format .incomplete)
  | some _, [] => .error (.format .missingArgument)
  | some letter, a :: args => .ok (letter, a, args)

/-- What a directive writes, and the arguments that are left. -/
def Directive.write (d : Directive) (args : List Argument) :
    Except Error (List Symbol × List Argument) := do
  let (flags, width, args) ← d.layout args
  let (precision, args) ← d.places args
  let (letter, a, args) ← d.operand args
  let field ← convert flags precision letter a
  .ok (field.pad flags width, args)

/-- What the parts of a format write; the arguments have to suffice and to be used up. -/
def writePieces : List Piece → List Argument → Except Error (List Symbol)
  | [], [] => .ok []
  | [], _ :: _ => .error (.format .furtherArguments)
  | .mapping :: _, _ => .error (.format .mapping)
  | .char c :: pieces, args => do
    let rest ← writePieces pieces args
    .ok (.char c :: rest)
  | .directive d :: pieces, args => do
    let (s, args) ← d.write args
    let rest ← writePieces pieces args
    .ok (s ++ rest)

/-- What a format writes.  Without arguments its directives stand for themselves, and only a
doubled percent sign is one percent sign. -/
def write (format : Text) (args : List Argument) : Except Error (List Symbol) :=
  if args.isEmpty then .ok (symbols (Text.substitutePair '%' '%' '%' format))
  else writePieces (pieces format) args

end SignalLab.Print
