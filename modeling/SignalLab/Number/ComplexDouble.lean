import SignalLab.Number.Double
import SignalLab.Number.Fault

/-!
# Complex doubles — arithmetic on pairs of doubles

Products follow the definition.  A quotient scales by the larger part of the divisor.  A power
with a small integer exponent is a product of squares, any other goes through polar form.
-/

namespace SignalLab

/-- A complex number with double parts. -/
structure ComplexDouble where
  re : Float
  im : Float

namespace ComplexDouble

/-- A real number as a complex one. -/
def ofReal (x : Float) : ComplexDouble := ⟨x, 0.0⟩

/-- The number one. -/
def one : ComplexDouble := ⟨1.0, 0.0⟩

/-- The sum, part by part. -/
def add (a b : ComplexDouble) : ComplexDouble := ⟨a.re + b.re, a.im + b.im⟩

/-- The difference, part by part. -/
def sub (a b : ComplexDouble) : ComplexDouble := ⟨a.re - b.re, a.im - b.im⟩

/-- The negation, part by part. -/
def neg (a : ComplexDouble) : ComplexDouble := ⟨-a.re, -a.im⟩

/-- The conjugate: the imaginary part changes sign. -/
def conjugate (a : ComplexDouble) : ComplexDouble := ⟨a.re, -a.im⟩

/-- The product. -/
def mul (a b : ComplexDouble) : ComplexDouble :=
  ⟨a.re * b.re - a.im * b.im, a.re * b.im + a.im * b.re⟩

/-- The quotient; nothing if the divisor is zero. -/
def div? (a b : ComplexDouble) : Option ComplexDouble :=
  if b.im.abs ≤ b.re.abs then
    if b.re.abs == 0.0 then none
    else
      let ratio := b.im / b.re
      let denom := b.re + b.im * ratio
      some ⟨(a.re + a.im * ratio) / denom, (a.im - a.re * ratio) / denom⟩
  else if b.re.abs ≤ b.im.abs then
    let ratio := b.re / b.im
    let denom := b.re * ratio + b.im
    some ⟨(a.re * ratio + a.im) / denom, (a.im * ratio - a.re) / denom⟩
  else some ⟨Double.nan, Double.nan⟩

/-- The modulus.  That of finite parts may be too large for a double. -/
def modulus (a : ComplexDouble) : Except Fault Float :=
  let r := Double.hypot a.re a.im
  if a.re.isFinite && a.im.isFinite && !r.isFinite then .error .modulusRange else .ok r

/-- `r * p ^ n` by squaring. -/
def mulPower (r p : ComplexDouble) (n : Nat) : ComplexDouble :=
  if n = 0 then r else mulPower (if n % 2 = 1 then r.mul p else r) (p.mul p) (n / 2)
termination_by n

/-- A power with an integer exponent; nothing if a zero would have to be inverted. -/
def powInteger? (a : ComplexDouble) (n : Int) : Option ComplexDouble :=
  if 0 < n then some (mulPower one a n.natAbs)
  else one.div? (mulPower one a n.natAbs)

/-- A power by polar form; nothing for zero to a negative or complex power, and nothing for an angle
that is infinite. -/
def powPolar? (a b : ComplexDouble) : Option ComplexDouble :=
  if b.re == 0.0 && b.im == 0.0 then some one
  else if a.re == 0.0 && a.im == 0.0 then
    if b.im != 0.0 || b.re < 0.0 then none else some ⟨0.0, 0.0⟩
  else
    let size := Double.hypot a.re a.im
    let angle := Float.atan2 a.im a.re
    let length := Float.pow size b.re
    let phase := angle * b.re
    let (length, phase) :=
      if b.im != 0.0 then
        (length / Float.exp (angle * b.im), phase + b.im * Float.log size)
      else (length, phase)
    if phase.isInf then none else some ⟨length * Float.cos phase, length * Float.sin phase⟩

/-- Exponents up to this size count as small. -/
def smallExponent : Float := 100.0

/-- The power of complex numbers. -/
def pow (a b : ComplexDouble) : Except Fault ComplexDouble :=
  let small := b.im == 0.0 && Double.isIntegral b.re && b.re.abs ≤ smallExponent
  let power := match small, Double.parts b.re with
    | true, .finite s m q => powInteger? a (Double.Rounding.towardZero.integer s m q)
    | _, _ => powPolar? a b
  match power with
  | none => .error .zeroToComplexPower
  | some p => if p.re.isInf || p.im.isInf then .error .complexPowerRange else .ok p

end ComplexDouble

end SignalLab
