import SignalLab.Spectrum.Transform

/-!
# Hermitian pairings — bins of a real signal that are conjugates of each other

In a spectrum of length `N`, bin `k` pairs with bin `N - k`; the zeroth bin and, for even `N`, the
middle one are their own partners.  The lab transcripts count bins from one and pair `k` with
`N - k + 2`, which is the same pairing.
-/

namespace SignalLab.Spectrum

/-- The partner of a bin in the counting of the labs, from one. -/
def labPartner (k n : Int) : Int :=
  n - k + 2

/-- The element at a position, which may count backwards from the end. -/
def elementAt (spectrum : List ComplexDouble) (i : Int) : Except Fault ComplexDouble :=
  let position := if i < 0 then i + spectrum.length else i
  if position < 0 then .error .index
  else
    match spectrum[position.toNat]? with
    | some z => .ok z
    | none => .error .index

/-- The distance of a bin from the conjugate of its partner, bins counted from one. -/
def labError (spectrum : List ComplexDouble) (k : Int) : Except Fault Float := do
  let a ← elementAt spectrum (k - 1)
  let b ← elementAt spectrum (labPartner k spectrum.length - 1)
  (a.sub b.conjugate).modulus

/-- A pair of bins and the distance of one from the conjugate of the other. -/
structure Pair where
  bin : Nat
  partner : Nat
  value : ComplexDouble
  partnerValue : ComplexDouble
  difference : Float
  special : Bool

/-- The pair of a bin of a spectrum of length `n`, for a bin up to the middle. -/
def pairOf (spectrum : List ComplexDouble) (k : Nat) : Except Fault Pair := do
  let n := spectrum.length
  let partner := if k = 0 then 0 else n - k
  let special := k = 0 ∨ (n % 2 = 0 ∧ k = n / 2)
  let a ← elementAt spectrum k
  let b ← elementAt spectrum partner
  let difference ← if special then .ok 0.0 else (a.sub b.conjugate).modulus
  .ok ⟨k, partner, a, b, difference, special⟩

/-- The pairs of a spectrum, one for every bin up to the middle. -/
def hermitianPairs (spectrum : List ComplexDouble) : Except Fault (List Pair) :=
  if spectrum.isEmpty then .ok []
  else (List.range (spectrum.length / 2 + 1)).mapM (pairOf spectrum)

end SignalLab.Spectrum
