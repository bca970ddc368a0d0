import SignalLab.Number.Double
import SignalLab.Text.Basic

/-!
# Decimals of a double — the fewest digits that read back, and rounding to given places

A decimal is a coefficient and a power of ten.  `Decimal.shortest` finds, for a finite nonzero
double, the decimal of fewest digits among those that round to it, and of these the nearest one.
`Decimal.ofPlaces` and `Decimal.ofSignificant` round the exact value of a double to a number of
places or of digits.  All of it is arithmetic on natural numbers.
-/

namespace SignalLab

/-- The number `coefficient * 10 ^ exponent`. -/
structure Decimal where
  coefficient : Nat
  exponent : Int
  deriving DecidableEq, Repr

namespace Decimal

/-- The number of decimal digits of a natural number, one for zero. -/
def digitCount (n : Nat) : Nat :=
  (Text.ofNat n).length

/-- The exponent `k` with `10 ^ k ≤ num / den < 10 ^ (k + 1)`, for a positive quotient. -/
def magnitude (num den : Nat) : Int :=
  let k : Int := (digitCount num : Int) - digitCount den
  if den * tenTo k.toNat ≤ num * tenTo (-k).toNat then k else k - 1

/-! ## The shortest decimal that reads back -/

/-- Whether the decimal `c * 10 ^ p` rounds to the double `m * 2 ^ q`: it lies between the
midpoints to the neighbouring doubles, ends included if `m` is even.  Below a power of two the
neighbour is only half as far. -/
def readsBack (m : Nat) (q : Int) (c : Nat) (p : Int) : Bool :=
  let lowGap := if m = twoTo 52 ∧ -1074 < q then 1 else 2
  let scaleTwo (n : Nat) := n * twoTo (q - 2).toNat * tenTo (-p).toNat
  let value := c * tenTo p.toNat * twoTo (2 - q).toNat
  let low := scaleTwo (4 * m - lowGap)
  let high := scaleTwo (4 * m + 2)
  if m % 2 = 0 then low ≤ value && value ≤ high else low < value && value < high

/-- Of the two multiples of `10 ^ p` around `m * 2 ^ q`, those that read back, nearest first; at
equal distance the even one. -/
def candidate? (m : Nat) (q : Int) (p : Int) : Option Nat :=
  let num := m * twoTo q.toNat * tenTo (-p).toNat
  let den := twoTo (-q).toNat * tenTo p.toNat
  let below := num / den
  let near := roundHalfEven num den
  let far := if near = below then below + 1 else below
  if readsBack m q near p then some near
  else if readsBack m q far p then some far
  else none

/-- The decimal of fewest digits that reads back as `m * 2 ^ q`, for `0 < m`.  Seventeen digits
always suffice. -/
def shortest (m : Nat) (q : Int) : Decimal :=
  let k := magnitude (m * twoTo q.toNat) (twoTo (-q).toNat)
  let found := (List.range 17).findSome? fun (n : Nat) =>
    (candidate? m q (k - n)).map fun c => (⟨c, k - n⟩ : Decimal)
  found.getD ⟨0, 0⟩

/-! ## Rounding to places and to digits -/

/-- `num / den` as a multiple of `10 ^ (-places)`. -/
def ofPlaces (num den places : Nat) : Nat :=
  roundHalfEven (num * tenTo places) den

/-- `num / den` rounded to `digits` significant digits (at least one); exactly that many digits
unless the value is zero. -/
def ofSignificant (num den digits : Nat) : Decimal :=
  if num = 0 then ⟨0, 1 - (digits : Int)⟩
  else
    let p := magnitude num den - ((digits : Int) - 1)
    let c := roundHalfEven (num * tenTo (-p).toNat) (den * tenTo p.toNat)
    if c = tenTo digits then ⟨tenTo (digits - 1), p + 1⟩ else ⟨c, p⟩

end Decimal

end SignalLab
