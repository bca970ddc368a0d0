import SignalLab.Text.Basic

/-!
# Faults — why an operation on numbers has no result

Each fault is a cause; `Fault.message` is its one wording.
-/

namespace SignalLab

/-- Why an operation on numbers, or on lists of them, has no result. -/
inductive Fault where
  /-- An integer divided by the integer zero. -/
  | integerDivision
  /-- A division by a zero double. -/
  | realDivision
  /-- A division by a zero complex number. -/
  | complexDivision
  /-- Zero raised to a negative power. -/
  | zeroToNegativePower
  /-- Zero raised to a complex or negative power, one of them complex, or a complex power that turns
  by an infinite angle. -/
  | zeroToComplexPower
  /-- A power of finite doubles beyond the largest double. -/
  | powerRange
  /-- A complex power with an infinite part. -/
  | complexPowerRange
  /-- An integer beyond the largest double meets a double. -/
  | integerRange
  /-- A quotient of integers beyond the largest double. -/
  | quotientRange
  /-- Infinity rounded to an integer. -/
  | infinityToInteger
  /-- What is no number rounded to an integer. -/
  | nanToInteger
  /-- An argument outside a function's domain. -/
  | domain
  /-- A function value beyond the largest double. -/
  | range
  /-- The modulus of a finite complex number beyond the largest double. -/
  | modulusRange
  /-- A complex argument of a real function. -/
  | complexArgument
  /-- A complex number truncated. -/
  | complexTruncation
  /-- A position that a list does not have. -/
  | index
  deriving DecidableEq, Repr

/-- The wording of a fault. -/
def Fault.message : Fault → Text
  | .integerDivision => "division by zero"
  | .realDivision => "float division by zero"
  | .complexDivision => "complex division by zero"
  | .zeroToNegativePower => "0.0 cannot be raised to a negative power"
  | .zeroToComplexPower => "0.0 to a negative or complex power"
  | .powerRange => "(34, 'Numerical result out of range')"
  | .complexPowerRange => "complex exponentiation"
  | .integerRange => "int too large to convert to float"
  | .quotientRange => "integer division result too large for a float"
  | .infinityToInteger => "cannot convert float infinity to integer"
  | .nanToInteger => "cannot convert float NaN to integer"
  | .domain => "math domain error"
  | .range => "math range error"
  | .modulusRange => "absolute value too large"
  | .complexArgument => "must be real number, not complex"
  | .complexTruncation => "type complex doesn't define __trunc__ method"
  | .index => "list index out of range"

end SignalLab
