import SignalLab.Number.Decimal

/-!
# Layout of numbers — plain, fixed, scientific and general text

`Double.text` is the plain text of a double: the fewest digits that read back, positional while
the exponent is at least -4 and below 16, otherwise with an exponent of a sign and at least two
digits.  `Double.format` lays a double out with a given precision in one of three styles.
-/

namespace SignalLab

/-- `n` in decimal, with zeros in front up to the given width. -/
def Text.ofNatPadded (width n : Nat) : Text :=
  let digits := Text.ofNat n
  List.replicate (width - digits.length) '0' ++ digits

/-- Removes the zeros at the end of a digit sequence. -/
def Text.dropFinalZeros (s : Text) : Text :=
  (s.reverse.dropWhile (· == '0')).reverse

namespace Double

/-- A mark, a sign and at least two digits. -/
def exponentText (mark : Char) (e : Int) : Text :=
  mark :: (if e < 0 then '-' else '+') :: Text.ofNatPadded 2 e.natAbs

/-- Digits before and after the point. -/
def withPoint (whole fraction : Text) (keepPoint : Bool) : Text :=
  if fraction.isEmpty && !keepPoint then whole else whole ++ '.' :: fraction

/-- The digit sequence `ds`, with its point after `point` digits, written without exponent. -/
def positional (ds : Text) (point : Int) (keepPoint : Bool) : Text :=
  if point ≤ 0 then withPoint ['0'] (List.replicate (-point).toNat '0' ++ ds) keepPoint
  else
    let whole := ds.take point.toNat
    withPoint (whole ++ List.replicate (point.toNat - ds.length) '0') (ds.drop point.toNat) keepPoint

/-- The digit sequence `ds` with its point after the first digit, and the exponent `e`. -/
def scientific (ds : Text) (mark : Char) (e : Int) (keepPoint : Bool) : Text :=
  withPoint (ds.take 1) (ds.drop 1) keepPoint ++ exponentText mark e

/-- The texts of infinity and of what is no number. -/
def infinityText : Text := "inf"

@[inherit_doc infinityText]
def nanText : Text := "nan"

/-- The plain text of a finite magnitude. -/
def magnitudeText (m : Nat) (q : Int) : Text :=
  if m = 0 then "0.0"
  else
    let d := Decimal.shortest m q
    let all := Text.ofNat d.coefficient
    let point : Int := all.length + d.exponent
    let ds := Text.dropFinalZeros all
    if -4 < point ∧ point ≤ 16 then
      let fraction := positional ds point false
      if fraction.contains '.' then fraction else fraction ++ ['.', '0']
    else scientific ds 'e' (point - 1) false

/-- The plain text of a double: it reads back as the same double. -/
def text (x : Float) : Text :=
  match parts x with
  | .nan => nanText
  | .infinite negative => if negative then '-' :: infinityText else infinityText
  | .finite negative m q => if negative then '-' :: magnitudeText m q else magnitudeText m q

/-! ## Layout with a precision -/

/-- The styles of `format`: a number of places, a number of digits after the first, or whichever
is shorter for a number of digits. -/
inductive Style where
  | fixed
  | scientific
  | general
  deriving DecidableEq, Repr

/-- The most significant digits and the most places behind the point that a double has: digits
asked for beyond these are zeros. -/
def exactDigits : Nat := 1074

/-- Zeros for the digits of `count` beyond the exact ones. -/
def furtherZeros (count : Nat) : Text :=
  List.replicate (count - exactDigits) '0'

/-- A finite magnitude with a number of places. -/
def fixedText (precision : Nat) (alternate : Bool) (num den : Nat) : Text :=
  let places := min precision exactDigits
  let ds := Text.ofNatPadded (places + 1) (Decimal.ofPlaces num den places) ++
    furtherZeros precision
  positional ds ((ds.length : Int) - precision) alternate

/-- A finite magnitude with an exponent, and a number of digits after the first. -/
def scientificText (precision : Nat) (alternate : Bool) (num den : Nat) : Text :=
  let places := min precision exactDigits
  let d := Decimal.ofSignificant num den (places + 1)
  scientific (Text.ofNatPadded (places + 1) d.coefficient ++ furtherZeros precision) 'e'
    (d.exponent + places) alternate

/-- Digits in whichever layout is shorter for the exponent of the first of them.  The zeros at the end
are kept only if the point is. -/
def generalLayout (count : Nat) (alternate : Bool) (ds : Text) (e : Int) : Text :=
  if e < -4 ∨ (count : Int) ≤ e then
    let ds := if alternate then ds else ds.take 1 ++ Text.dropFinalZeros (ds.drop 1)
    scientific ds 'e' e alternate
  else
    let whole := if e < 0 then ['0'] else ds.take (e + 1).toNat
    let fraction := if e < 0 then ds else ds.drop (e + 1).toNat
    let fraction := List.replicate (-e - 1).toNat '0' ++ fraction
    let fraction := if alternate then fraction else Text.dropFinalZeros fraction
    withPoint whole fraction alternate

/-- A finite magnitude in a number of digits. -/
def generalText (precision : Nat) (alternate : Bool) (num den : Nat) : Text :=
  let count := max precision 1
  let exact := min count exactDigits
  let d := Decimal.ofSignificant num den exact
  let ds := Text.ofNatPadded exact d.coefficient
  let ds := if alternate then ds ++ furtherZeros count else ds
  generalLayout count alternate ds (d.exponent + exact - 1)

/-- A finite magnitude in a style.  `alternate` keeps the point and, in the general style, the
zeros at the end. -/
def formatMagnitude (style : Style) (precision : Nat) (alternate : Bool) (m : Nat) (q : Int) :
    Text :=
  let num := m * twoTo q.toNat
  let den := twoTo (-q).toNat
  match style with
  | .fixed => fixedText precision alternate num den
  | .scientific => scientificText precision alternate num den
  | .general => generalText precision alternate num den

/-- A double in a style, with the given precision and without its sign. -/
def formatUnsigned (style : Style) (precision : Nat) (alternate : Bool) (x : Float) : Text :=
  match parts x with
  | .nan => nanText
  | .infinite _ => infinityText
  | .finite _ m q => formatMagnitude style precision alternate m q

/-- A double in a style, with the given precision. -/
def format (style : Style) (precision : Nat) (x : Float) (alternate : Bool := false) : Text :=
  let magnitude := formatUnsigned style precision alternate x
  if isNegative x && !x.isNaN then '-' :: magnitude else magnitude

end Double

end SignalLab
