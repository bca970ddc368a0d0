/-!
# Doubles read exactly — parts, nearest doubles, conversions to integers

A finite double is an integer multiple of a power of two.  `Double.parts` takes it apart;
`Double.nearest` goes the other way and rounds any quotient of natural numbers to the nearest
double, halves to the even neighbour.  All that must be exact (conversions between integers and
doubles, remainders, square roots of sums of squares, decimal text) is stated on the parts.
-/

namespace SignalLab

/-- Two to the power of a natural number. -/
abbrev twoTo (k : Nat) : Nat := Nat.pow 2 k

/-- Ten to the power of a natural number. -/
abbrev tenTo (k : Nat) : Nat := Nat.pow 10 k

/-- A quotient rounded to the nearest integer; a half goes to the even neighbour. -/
def roundHalfEven (num den : Nat) : Nat :=
  let q := num / den
  let r := num % den
  if 2 * r < den then q else if den < 2 * r then q + 1 else q + q % 2

/-- The largest `r` with `r * r ≤ n`, found two binary digits at a time. -/
def squareRoot (n : Nat) : Nat :=
  if n < 2 then n
  else
    let r := 2 * squareRoot (n / 4)
    if (r + 1) * (r + 1) ≤ n then r + 1 else r
termination_by n

/-- A double taken apart: `finite s m q` is `m * 2 ^ q`, negative if `s`. -/
inductive Double.Parts where
  | finite (negative : Bool) (mantissa : Nat) (exponent : Int)
  | infinite (negative : Bool)
  | nan
  deriving DecidableEq, Repr

namespace Double

/-! ## From a double to its parts and back -/

/-- The parts of a double. -/
def parts (x : Float) : Parts :=
  let bits := x.toBits.toNat
  let negative := bits / twoTo 63 == 1
  let exponent : Nat := bits / twoTo 52 % 2048
  let fraction := bits % twoTo 52
  if exponent = 2047 then
    if fraction = 0 then .infinite negative else .nan
  else if exponent = 0 then .finite negative fraction (-1074)
  else .finite negative (twoTo 52 + fraction) ((exponent : Int) - 1075)

/-- The pattern of infinity; every finite double has a smaller one. -/
def infinityBits : Nat := 2047 * twoTo 52

/-- The pattern of the double nearest to `num / den`.  The unit `2 ^ q` is the one of doubles of
this size, and a mantissa rounded up to `2 ^ 53` carries into the exponent by itself. -/
def nearestBits (num den : Nat) : Nat :=
  if num = 0 then 0
  else
    let e : Int := (num.log2 : Int) - den.log2
    let e := if den * twoTo e.toNat ≤ num * twoTo (-e).toNat then e else e - 1
    let q := max (e - 52) (-1074)
    let m := roundHalfEven (num * twoTo (-q).toNat) (den * twoTo q.toNat)
    min infinityBits ((q + 1074).toNat * twoTo 52 + m)

/-- The double with the given sign whose magnitude is nearest to `num / den`. -/
def nearest (negative : Bool) (num den : Nat) : Float :=
  Float.ofBits (UInt64.ofNat ((if negative then twoTo 63 else 0) + nearestBits num den))

/-- The double nearest to `m * 2 ^ q`. -/
def nearestScaled (negative : Bool) (m : Nat) (q : Int) : Float :=
  nearest negative (m * twoTo q.toNat) (twoTo (-q).toNat)

/-- Positive infinity. -/
def infinity : Float := Float.ofBits 0x7FF0000000000000

/-- A quiet NaN. -/
def nan : Float := Float.ofBits 0x7FF8000000000000

/-- Archimedes' constant, rounded. -/
def pi : Float := Float.ofBits 0x400921FB54442D18

/-- Euler's number, rounded. -/
def euler : Float := Float.ofBits 0x4005BF0A8B145769

/-- The distance from one to the next double, `2 ^ -52`. -/
def epsilon : Float := Float.ofBits 0x3CB0000000000000

/-- Whether the sign bit is set. -/
def isNegative (x : Float) : Bool :=
  twoTo 63 ≤ x.toBits.toNat

/-- The magnitude of `x` with the sign of `y`. -/
def copySign (x y : Float) : Float :=
  if isNegative x == isNegative y then x else -x

/-! ## Integers -/

/-- The double nearest to an integer, or nothing if that is infinite. -/
def ofInt? (n : Int) : Option Float :=
  if nearestBits n.natAbs 1 < infinityBits then some (nearest (n < 0) n.natAbs 1) else none

/-- The double nearest to the quotient of two integers, or nothing if that is infinite. -/
def ofQuotient? (a b : Int) : Option Float :=
  if nearestBits a.natAbs b.natAbs < infinityBits then
    some (nearest ((a < 0) != (b < 0)) a.natAbs b.natAbs)
  else none

/-- The double nearest to a natural number; infinite beyond the largest. -/
def ofNat (n : Nat) : Float :=
  nearest false n 1

/-- Ways to make an integer of a finite double. -/
inductive Rounding where
  | down
  | up
  | towardZero
  deriving DecidableEq, Repr

/-- The integer that `m * 2 ^ q` is rounded to. -/
def Rounding.integer (mode : Rounding) (negative : Bool) (m : Nat) (q : Int) : Int :=
  let magnitude := m * twoTo q.toNat / twoTo (-q).toNat
  let exact := magnitude * twoTo (-q).toNat = m * twoTo q.toNat
  let away := match mode with
    | .down => negative
    | .up => !negative
    | .towardZero => false
  let n : Int := if exact ∨ !away then magnitude else magnitude + 1
  if negative then -n else n

/-- Whether a double is a finite integer. -/
def isIntegral (x : Float) : Bool :=
  match parts x with
  | .finite _ m q => m * twoTo q.toNat % twoTo (-q).toNat == 0
  | _ => false

/-- Whether a double is an odd integer. -/
def isOddIntegral (x : Float) : Bool :=
  match parts x with
  | .finite _ m q =>
    m * twoTo q.toNat % twoTo (-q).toNat == 0 && m * twoTo q.toNat / twoTo (-q).toNat % 2 == 1
  | _ => false

/-! ## Exact remainders and roots -/

/-- The remainder of a division truncated toward zero, which is always a double; it has the sign
of the dividend.  Nothing if the dividend is infinite or the divisor zero. -/
def remainder? (x y : Float) : Option Float :=
  match parts x, parts y with
  | .nan, _ => some nan
  | _, .nan => some nan
  | .infinite _, _ => none
  | .finite .., .infinite _ => some x
  | .finite s m q, .finite _ n r =>
    if n = 0 then none
    else
      let unit := min q r
      some (nearestScaled s (m * twoTo (q - unit).toNat % (n * twoTo (r - unit).toNat)) unit)

/-- The length of the vector `(x, y)`, rounded once.  The sum of squares is an integer over an
even power of two; its root is taken to at least sixty binary digits, and a last digit one stands
for all that was cut off. -/
def hypot (x y : Float) : Float :=
  match parts x, parts y with
  | .infinite _, _ => infinity
  | _, .infinite _ => infinity
  | .nan, _ => nan
  | _, .nan => nan
  | .finite _ m q, .finite _ n r =>
    let unit := min q r
    let a := m * twoTo (q - unit).toNat
    let b := n * twoTo (r - unit).toNat
    let sum := (a * a + b * b) * twoTo 120
    let root := squareRoot sum
    nearestScaled false (2 * root + if root * root = sum then 0 else 1) (unit - 61)

end Double

end SignalLab
