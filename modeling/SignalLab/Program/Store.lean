import SignalLab.Number.ComplexDouble
import SignalLab.Text.Keyed

/-!
# Values and the variable store

A variable holds a scalar, a real vector or a complex vector.  The store keeps the variables in the
order of their first assignment; the last value assigned to a name counts.
-/

namespace SignalLab

/-- The value of a variable. -/
inductive Value where
  | scalar (x : Float)
  | realVector (xs : List Float)
  | complexVector (zs : List ComplexDouble)

namespace Value

/-- The scalar zero. -/
def zero : Value := .scalar 0.0

/-- The number of elements of a vector. -/
def length? : Value → Option Nat
  | .scalar _ => none
  | .realVector xs => some xs.length
  | .complexVector zs => some zs.length

/-- Whether a value is a vector. -/
def isVector (v : Value) : Bool :=
  v.length?.isSome

/-- The double of a scalar. -/
def scalar? : Value → Option Float
  | .scalar x => some x
  | _ => none

/-- The elements of a real vector. -/
def realVector? : Value → Option (List Float)
  | .realVector xs => some xs
  | _ => none

/-- The elements of a complex vector. -/
def complexVector? : Value → Option (List ComplexDouble)
  | .complexVector zs => some zs
  | _ => none

/-- The name of a value's kind. -/
def kindName : Value → Text
  | .scalar _ => "scalar"
  | .realVector _ => "real_vector"
  | .complexVector _ => "complex_vector"

end Value

/-- The variables of a program. -/
structure Store where
  entries : Keyed Value

namespace Store

/-- The store without variables. -/
def empty : Store := ⟨[]⟩

/-- The value of a variable. -/
def get? (s : Store) (name : Text) : Option Value :=
  Keyed.find? name s.entries

/-- The store after an assignment. -/
def set (s : Store) (name : Text) (value : Value) : Store :=
  ⟨Keyed.assign name value s.entries⟩

/-- The store without a variable. -/
def delete (s : Store) (name : Text) : Store :=
  ⟨Keyed.remove name s.entries⟩

/-- The store after all variables are removed. -/
def clear (_ : Store) : Store := empty

/-- The names of the variables, in order. -/
def names (s : Store) : List Text :=
  Keyed.names s.entries

/-- The number of variables. -/
def size (s : Store) : Nat :=
  s.entries.length

/-- Whether a variable is bound. -/
def contains (s : Store) (name : Text) : Bool :=
  (s.get? name).isSome

/-- The double a variable holds, if it is a scalar. -/
def scalar? (s : Store) (name : Text) : Option Float :=
  (s.get? name).bind Value.scalar?

/-- The elements a variable holds, if it is a real vector. -/
def realVector? (s : Store) (name : Text) : Option (List Float) :=
  (s.get? name).bind Value.realVector?

/-- The elements a variable holds, if it is a complex vector. -/
def complexVector? (s : Store) (name : Text) : Option (List ComplexDouble) :=
  (s.get? name).bind Value.complexVector?

/-- The scalars, in order. -/
def scalars (s : Store) : Keyed Float :=
  Keyed.collect Value.scalar? s.entries

end Store

end SignalLab
