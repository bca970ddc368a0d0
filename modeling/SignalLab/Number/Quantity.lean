import SignalLab.Number.ComplexDouble

/-!
# Quantities — integers, doubles and complex numbers in one arithmetic

An integer has no bound and stays exact among integers, except under division and negative
powers; meeting a double it is rounded to one, and a double meeting a complex number becomes
complex.  Only a negative base with a fractional exponent makes a complex number of real ones.
-/

namespace SignalLab

/-- A number as an expression works with it. -/
inductive Quantity where
  | integer (n : Int)
  | real (x : Float)
  | complex (z : ComplexDouble)

/-- The double nearest to an integer, which has to be finite. -/
def Double.ofInt (n : Int) : Except Fault Float :=
  match Double.ofInt? n with
  | some x => .ok x
  | none => .error .integerRange

/-- A finite double made an integer. -/
def Double.toInteger (mode : Double.Rounding) (x : Float) : Except Fault Int :=
  match Double.parts x with
  | .finite s m q => .ok (mode.integer s m q)
  | .infinite _ => .error .infinityToInteger
  | .nan => .error .nanToInteger

/-- A power of doubles that is real or complex.  Zero exponents and unit bases win over NaN; an
infinite base or exponent follows the limits; a negative base keeps its sign under an odd
exponent and leaves the real line under a fractional one. -/
def Double.pow (x y : Float) : Except Fault Quantity :=
  if y == 0.0 then .ok (.real 1.0)
  else if x.isNaN then .ok (.real x)
  else if y.isNaN then .ok (.real (if x == 1.0 then 1.0 else y))
  else if y.isInf then
    let size := x.abs
    .ok (.real (if size == 1.0 then 1.0
      else if (0.0 < y) == (1.0 < size) then Double.infinity else 0.0))
  else
    let odd := Double.isOddIntegral y
    if x.isInf then
      .ok (.real (if 0.0 < y then if odd then x else Double.infinity
        else if odd then Double.copySign 0.0 x else 0.0))
    else if x == 0.0 then
      if y < 0.0 then .error .zeroToNegativePower
      else .ok (.real (if odd then x else 0.0))
    else if x < 0.0 && !Double.isIntegral y then
      (ComplexDouble.pow (.ofReal x) (.ofReal y)).map .complex
    else
      let negate := x < 0.0 && odd
      let power := if x.abs == 1.0 then 1.0 else Float.pow x.abs y
      if power.isInf then .error .powerRange
      else .ok (.real (if negate then -power else power))

namespace Quantity

/-- The quantity as a double. -/
def toReal : Quantity → Except Fault Float
  | .integer n => Double.ofInt n
  | .real x => .ok x
  | .complex _ => .error .complexArgument

/-- The quantity as a complex number. -/
def toComplex : Quantity → Except Fault ComplexDouble
  | .integer n => (Double.ofInt n).map .ofReal
  | .real x => .ok (.ofReal x)
  | .complex z => .ok z

/-! ## Operations -/

/-- Applies the operation of the smallest kind that holds both operands. -/
def combine (onIntegers : Int → Int → Except Fault Quantity)
    (onReals : Float → Float → Except Fault Quantity)
    (onComplex : ComplexDouble → ComplexDouble → Except Fault Quantity) :
    Quantity → Quantity → Except Fault Quantity
  | .integer a, .integer b => onIntegers a b
  | .complex a, b => do onComplex a (← b.toComplex)
  | a, .complex b => do onComplex (← a.toComplex) b
  | a, b => do
    let x ← a.toReal
    let y ← b.toReal
    onReals x y

/-- The sum. -/
def add : Quantity → Quantity → Except Fault Quantity :=
  combine (fun a b => .ok (.integer (a + b))) (fun x y => .ok (.real (x + y)))
    (fun z w => .ok (.complex (z.add w)))

/-- The difference. -/
def sub : Quantity → Quantity → Except Fault Quantity :=
  combine (fun a b => .ok (.integer (a - b))) (fun x y => .ok (.real (x - y)))
    (fun z w => .ok (.complex (z.sub w)))

/-- The product. -/
def mul : Quantity → Quantity → Except Fault Quantity :=
  combine (fun a b => .ok (.integer (a * b))) (fun x y => .ok (.real (x * y)))
    (fun z w => .ok (.complex (z.mul w)))

/-- The quotient of integers, rounded once. -/
def divIntegers (a b : Int) : Except Fault Float :=
  if b = 0 then .error .integerDivision
  else
    match Double.ofQuotient? a b with
    | some x => .ok x
    | none => .error .quotientRange

/-- The quotient of doubles; the divisor must not be zero. -/
def divReals (x y : Float) : Except Fault Float :=
  if y == 0.0 then .error .realDivision else .ok (x / y)

/-- The quotient. -/
def div : Quantity → Quantity → Except Fault Quantity :=
  combine (fun a b => (divIntegers a b).map .real) (fun x y => (divReals x y).map .real)
    (fun z w =>
      match z.div? w with
      | some q => .ok (.complex q)
      | none => .error .complexDivision)

/-- The power. -/
def pow : Quantity → Quantity → Except Fault Quantity :=
  combine
    (fun a b =>
      if 0 ≤ b then .ok (.integer (Int.pow a b.toNat))
      else do
        let x ← Double.ofInt a
        let y ← Double.ofInt b
        Double.pow x y)
    Double.pow
    (fun z w => (z.pow w).map .complex)

/-- The negation. -/
def neg : Quantity → Quantity
  | .integer n => .integer (-n)
  | .real x => .real (-x)
  | .complex z => .complex z.neg

/-- The absolute value; that of a complex number is real. -/
def abs : Quantity → Except Fault Quantity
  | .integer n => .ok (.integer n.natAbs)
  | .real x => .ok (.real x.abs)
  | .complex z => z.modulus.map .real

/-- Whether a real quantity is greater than a natural number; NaN is not. -/
def exceeds (bound : Nat) : Quantity → Bool
  | .integer n => (bound : Int) < n
  | .real x => Double.ofNat bound < x
  | .complex _ => false

end Quantity

end SignalLab
