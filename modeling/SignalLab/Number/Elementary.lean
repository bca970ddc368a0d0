import SignalLab.Number.Quantity

/-!
# Elementary functions — roots, exponentials, logarithms, rounding and remainders

Each function takes quantities and either has a value or a fault.  Logarithms reach integers beyond
the largest double; rounding functions give integers; the modulus follows the sign of its divisor,
the remainder that of its dividend.
-/

namespace SignalLab

namespace Double

/-- A value of a real function at `x`: no number out of a number is outside the domain, infinity
out of a finite number is the given fault. -/
def checked (pole : Fault) (x value : Float) : Except Fault Float :=
  if value.isNaN && !x.isNaN then .error .domain
  else if value.isInf && x.isFinite then .error pole
  else .ok value

/-- A function of angles; infinity is outside its domain. -/
def ofAngle (f : Float → Float) (x : Float) : Except Fault Float :=
  if x.isInf then .error .domain else .ok (f x)

/-- The sine. -/
def sin (x : Float) : Except Fault Float :=
  ofAngle Float.sin x

/-- The cosine. -/
def cos (x : Float) : Except Fault Float :=
  ofAngle Float.cos x

/-- The exponential function. -/
def exp (x : Float) : Except Fault Float :=
  checked .range x (Float.exp x)

/-- The square root of what is not negative. -/
def sqrt (x : Float) : Except Fault Float :=
  checked .domain x (Float.sqrt x)

/-- A logarithm of a positive double. -/
def logarithm (log : Float → Float) (x : Float) : Except Fault Float :=
  if x.isNaN then .ok x
  else if 0.0 < x then .ok (if x.isInf then x else log x)
  else .error .domain

/-- The nearest integer; a half goes to the even neighbour. -/
def roundToEven (x : Float) : Except Fault Int :=
  match parts x with
  | .finite s m q =>
    let n : Int := roundHalfEven (m * twoTo q.toNat) (twoTo (-q).toNat)
    .ok (if s then -n else n)
  | .infinite _ => .error .infinityToInteger
  | .nan => .error .nanToInteger

/-- A positive integer as a double in `[1/2, 1)` and a power of two. -/
def splitInteger (n : Nat) : Float × Nat :=
  let e := n.log2 + 1
  let x := nearest false n (twoTo e)
  if x == 1.0 then (0.5, e + 1) else (x, e)

end Double

namespace Quantity

/-- Applies a real function to a quantity. -/
def onReal (f : Float → Except Fault Float) (x : Quantity) : Except Fault Quantity := do
  let x ← x.toReal
  (f x).map .real

/-- A logarithm of a quantity; of an integer that is no double, by its size in bits. -/
def logarithm (log : Float → Float) : Quantity → Except Fault Float
  | .integer n =>
    if n ≤ 0 then .error .domain
    else
      match Double.ofInt? n with
      | some x => Double.logarithm log x
      | none =>
        let (x, e) := Double.splitInteger n.toNat
        .ok (log x + log 2.0 * Double.ofNat e)
  | x => do Double.logarithm log (← x.toReal)

/-- The logarithm to a base, a quotient of natural logarithms. -/
def logarithmTo (base x : Quantity) : Except Fault Quantity := do
  let num ← x.logarithm Float.log
  let den ← base.logarithm Float.log
  (divReals num den).map .real

/-- Rounds down or up; an integer stays. -/
def roundTo (mode : Double.Rounding) : Quantity → Except Fault Int
  | .integer n => .ok n
  | .real x => Double.toInteger mode x
  | .complex _ => .error .complexArgument

/-- Cuts off the places behind the point; an integer stays. -/
def truncate : Quantity → Except Fault Int
  | .complex _ => .error .complexTruncation
  | x => x.roundTo .towardZero

/-- Rounds halves away from zero: the magnitude plus one half, rounded down, with the sign. -/
def roundHalfAway (x : Quantity) : Except Fault Quantity := do
  let size ← (← x.abs).add (.real 0.5)
  let n ← size.roundTo .down
  let magnitude ← Double.ofInt n
  let sign ← x.toReal
  .ok (.real (Double.copySign magnitude sign))

/-- `a - floor (a / b) * b`. -/
def modulo (a b : Quantity) : Except Fault Quantity := do
  let n ← (← a.div b).roundTo .down
  a.sub (← (Quantity.integer n).mul b)

/-- The remainder of a division truncated toward zero. -/
def remainder (a b : Quantity) : Except Fault Quantity := do
  let x ← a.toReal
  let y ← b.toReal
  match Double.remainder? x y with
  | some r => .ok (.real r)
  | none => .error .domain

end Quantity

end SignalLab
