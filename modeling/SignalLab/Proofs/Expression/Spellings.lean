import SignalLab.Proofs.Expression.DecimalNumerals
import SignalLab.Proofs.Number.Literals
import SignalLab.Proofs.Text.FirstMatch

/-!
# Spellings — the parts of a bare literal

A bare literal is a sign that may be missing, digits, a point with digits behind it, and an exponent;
the digits are those of any script.  Whatever the reader of literals accepts is written like this, and
its value is that of the parts (`exists_spelling`).
-/

namespace SignalLab.Expression

open Text

/-! ## Digits -/

/-- The value of a decimal digit. -/
def digitOf (c : Char) : Nat :=
  (digitValue? c).getD 0

/-- The number that decimal digits write. -/
def numberIn (digits : Text) : Nat :=
  numberOf (digits.map digitOf)

/-- The digits of ASCII are the ten. -/
theorem isDigit_of_isDecimalDigit {c : Char} (hc : isDecimalDigit c = true)
    (hascii : c.toNat < 0x80) : c.isDigit = true := by
  by_contra hdigit
  rw [isDecimalDigit, digitValue?, if_pos hascii, if_neg hdigit] at hc
  cases hc

/-- Both readers give a digit the same value. -/
theorem digitOf_of_isDigit {c : Char} (hc : c.isDigit = true) : digitOf c = baseDigit c := by
  have hascii : c.toNat < 0x80 := by
    have hbounds := toNat_of_isDigit hc
    omega
  rw [digitOf, digitValue?, if_pos hascii, if_pos hc, baseDigit, if_pos hc]
  rfl

/-- On ASCII digits the reader of numerals and that of literals agree. -/
theorem numberInBase_digits {digits : Text} (hdigits : ∀ c ∈ digits, c.isDigit = true) :
    numberInBase 10 digits = numberIn digits := by
  have hmap : digits.map digitOf = digits.map baseDigit :=
    List.map_congr_left fun c hc => digitOf_of_isDigit (hdigits c hc)
  rw [numberIn, hmap, numberOf, List.foldl_map]
  rfl

/-- What is taken for digits are the digits at the front. -/
theorem exists_of_takeDigits (s : Text) :
    ∃ digits, s = digits ++ (takeDigits s).2 ∧ (takeDigits s).1 = digits.map digitOf ∧
      ∀ c ∈ digits, isDecimalDigit c = true := by
  obtain ⟨written, hsplit, hvalues, -⟩ := takeDigits_isDigits s
  have hdigit : ∀ c ∈ written, ∃ d, digitValue? c = some d := by
    intro c hc
    have hmem : digitValue? c ∈ (takeDigits s).1.map some := hvalues ▸ List.mem_map_of_mem hc
    obtain ⟨d, -, hd⟩ := List.mem_map.mp hmem
    exact ⟨d, hd.symm⟩
  refine ⟨written, hsplit, ?_, fun c hc => ?_⟩
  · have hget := congrArg (List.map (·.getD 0)) hvalues
    rw [List.map_map, List.map_map] at hget
    exact (hget.trans (List.map_id _)).symm
  · obtain ⟨d, hd⟩ := hdigit c hc
    rw [isDecimalDigit, hd]
    rfl

/-! ## Signs and exponents -/

/-- What is taken for a sign is one, and it says whether the number is negative. -/
theorem exists_of_takeSign (s : Text) :
    ∃ sign, s = signText sign ++ (takeSign s).2 ∧
      (takeSign s).1 = decide (sign = some Sign.minus) := by
  rw [takeSign.eq_def]
  split
  · exact ⟨some .plus, rfl, rfl⟩
  · exact ⟨some .minus, rfl, rfl⟩
  · exact ⟨none, rfl, rfl⟩

/-- An exponent by its parts. -/
structure Exponent where
  mark : Char
  sign : Option Sign
  digits : Text
  mark_eq : mark = 'e' ∨ mark = 'E'
  digits_ne_nil : digits ≠ []
  digits_decimal : ∀ c ∈ digits, isDecimalDigit c = true

namespace Exponent

def text (e : Exponent) : Text :=
  e.mark :: (signText e.sign ++ e.digits)

def value (e : Exponent) : Int :=
  signedNumber e.sign (numberIn e.digits)

end Exponent

/-- The text of an exponent that may be missing. -/
def exponentText : Option Exponent → Text
  | none => []
  | some e => e.text

/-- The value of an exponent that may be missing. -/
def exponentValue : Option Exponent → Int
  | none => 0
  | some e => e.value

/-- What is read as an exponent is one, with this value. -/
theorem exists_exponent {s : Text} {n : Int} (h : readExponent? s = some n) :
    ∃ e, s = exponentText e ∧ n = exponentValue e := by
  cases s with
  | nil => exact ⟨none, rfl, (Option.some.inj h).symm⟩
  | cons mark s =>
      rw [readExponent?] at h
      split at h
      · rename_i hmark
        obtain ⟨sign, hs, hsign⟩ := exists_of_takeSign s
        obtain ⟨digits, hdigits, hvalues, hdecimal⟩ := exists_of_takeDigits (takeSign s).2
        simp only at h
        split at h
        · cases h
        · rename_i ds hne heq
          rw [heq] at hdigits hvalues
          rw [List.append_nil] at hdigits
          have hnil : digits ≠ [] := by
            rintro rfl
            exact hne hvalues
          refine ⟨some ⟨mark, sign, digits, hmark, hnil, hdecimal⟩, ?_, ?_⟩
          · rw [hdigits] at hs
            exact congrArg (mark :: ·) hs
          · have hvalues : ds = digits.map digitOf := hvalues
            rw [exponentValue, Exponent.value, signedNumber, numberIn, ← hvalues, ← hsign]
            exact (Option.some.inj h).symm
        · cases h
      · cases h

/-! ## Literals -/

/-- A bare literal by its parts: there is a digit before the point or behind it. -/
structure Spelling where
  sign : Option Sign
  whole : Text
  fraction : Option Text
  exponent : Option Exponent
  whole_decimal : ∀ c ∈ whole, isDecimalDigit c = true
  fraction_decimal : ∀ c ∈ fraction.getD [], isDecimalDigit c = true
  has_digit : whole ≠ [] ∨ fraction.getD [] ≠ []

/-- The text of a point and the digits behind it, if there is one. -/
def fractionText : Option Text → Text
  | none => []
  | some digits => '.' :: digits

/-- The digits behind the point at the front, if there is one, and the rest. -/
def takeFraction (s : Text) : List Nat × Text :=
  match s with
  | '.' :: rest => takeDigits rest
  | _ => ([], s)

/-- A literal is read as sign, digits, fraction and exponent, and has digits. -/
theorem readLiteral?_eq (v : Text) :
    readLiteral? v =
      if (takeDigits (takeSign v).2).1.isEmpty &&
          (takeFraction (takeDigits (takeSign v).2).2).1.isEmpty then none
      else
        (readExponent? (takeFraction (takeDigits (takeSign v).2).2).2).map fun e =>
          Double.ofDecimal (takeSign v).1
            (numberOf ((takeDigits (takeSign v).2).1 ++
              (takeFraction (takeDigits (takeSign v).2).2).1))
            (e - (takeFraction (takeDigits (takeSign v).2).2).1.length) :=
  rfl

namespace Spelling

variable (sp : Spelling)

/-- The text without the sign. -/
def body : Text :=
  sp.whole ++ (fractionText sp.fraction ++ exponentText sp.exponent)

def text : Text :=
  signText sp.sign ++ sp.body

/-- The number that all digits before the exponent write. -/
def coefficient : Nat :=
  numberIn (sp.whole ++ sp.fraction.getD [])

/-- The power of ten that scales the coefficient. -/
def scale : Int :=
  exponentValue sp.exponent - (sp.fraction.getD []).length

def value : Float :=
  Double.ofDecimal (decide (sp.sign = some .minus)) sp.coefficient sp.scale

end Spelling

/-- The point behind the digits of a literal, and the digits behind the point. -/
theorem exists_fraction (s : Text) :
    ∃ fraction : Option Text,
      s = fractionText fraction ++ (takeFraction s).2 ∧
      (takeFraction s).1 = (fraction.getD []).map digitOf ∧
      ∀ c ∈ fraction.getD [], isDecimalDigit c = true := by
  rw [takeFraction.eq_def]
  split
  · rename_i rest
    obtain ⟨digits, hsplit, hvalues, hdecimal⟩ := exists_of_takeDigits rest
    exact ⟨some digits, congrArg ('.' :: ·) hsplit, hvalues, hdecimal⟩
  · exact ⟨none, rfl, rfl, List.forall_mem_nil _⟩

/-- A literal that is read is spelled by its parts. -/
theorem exists_spelling {v : Text} {x : Float} (h : readLiteral? v = some x) :
    ∃ sp : Spelling, sp.text = v ∧ sp.value = x := by
  rw [readLiteral?_eq] at h
  obtain ⟨sign, hv, hsign⟩ := exists_of_takeSign v
  obtain ⟨whole, hwhole, hwholeValues, hwholeDecimal⟩ := exists_of_takeDigits (takeSign v).2
  obtain ⟨fraction, hfraction, hfractionValues, hfractionDecimal⟩ :=
    exists_fraction (takeDigits (takeSign v).2).2
  split at h
  · cases h
  · rename_i hdigit
    obtain ⟨n, hn, hx⟩ := Option.map_eq_some_iff.mp h
    obtain ⟨exponent, hexponent, rfl⟩ := exists_exponent hn
    rw [hwholeValues, hfractionValues, List.isEmpty_map, List.isEmpty_map, Bool.and_eq_true,
      List.isEmpty_iff, List.isEmpty_iff, not_and_or] at hdigit
    refine ⟨⟨sign, whole, fraction, exponent, hwholeDecimal, hfractionDecimal, hdigit⟩, ?_, ?_⟩
    · rw [Spelling.text, Spelling.body, ← hexponent, ← hfraction, ← hwhole, ← hv]
    · rw [← hx, Spelling.value, Spelling.coefficient, Spelling.scale, numberIn, List.map_append,
        ← hwholeValues, ← hfractionValues, ← hsign, hfractionValues, List.length_map]

end SignalLab.Expression
