import SignalLab.Proofs.Expression.Formula
import SignalLab.Proofs.Expression.Scanning
import SignalLab.Proofs.Number.WholeDecimals

/-!
# Decimal numerals — a point, an exponent, and what may stand behind them

The reader of numerals takes ASCII digits, a point and an exponent one after the other.  Each lemma
here describes one of these steps for the longest run of digits, whatever stands behind the run: a
delimiter, before which the numeral ends, or a character outside ASCII, before which it is refused.
-/

namespace SignalLab.Expression

open Text

variable {whole fraction digits rest : Text}

/-! ## Ends -/

/-- A numeral is refused before a character outside ASCII, which may be part of a name. -/
theorem endsNumeral_of_not_ascii {c : Char} (hc : 0x80 ≤ c.toNat) (s : Text) :
    endsNumeral (c :: s) = false := by
  have hjoins : ∀ w ∈ ["and", "else", "for", "if", "in", "is", "or", "not"],
      w.toList.head?.any (fun d => decide (d.toNat < 0x80)) = true := by
    decide
  have hname : isNameLike c = true := by
    rw [isNameLike, decide_eq_true hc, Bool.or_true]
  rw [endsNumeral, List.head?_cons, Option.any_some, hname, Bool.not_true, Bool.or_false,
    List.any_eq_false]
  intro w hw hlead
  obtain ⟨d, hd, hascii⟩ := (Option.any_eq_true _ _).mp (hjoins w hw)
  obtain ⟨word, hword⟩ := List.head?_eq_some_iff.mp hd
  obtain ⟨behind, hbehind⟩ := List.isPrefixOf_iff_prefix.mp hlead
  rw [hword, List.cons_append] at hbehind
  rw [(List.cons.inj hbehind).1] at hascii
  exact Nat.not_le.mpr (of_decide_eq_true hascii) hc

/-- What is read before a bounded rest is a double, unless the rest is a character outside ASCII. -/
theorem finishReal?_of_bounded (hrest : Bounded rest) (e : Int) :
    finishReal? whole fraction e rest =
      if endsNumeral rest then
        some (.real (Double.ofDecimal false (numberInBase 10 (whole ++ fraction))
          (e - fraction.length)), rest)
      else none := by
  rw [finishReal?.eq_def]
  split
  · exact absurd rfl (hrest.head?_ne (d := 'j') (by decide) (by decide))
  · exact absurd rfl (hrest.head?_ne (d := 'J') (by decide) (by decide))
  · rfl

/-! ## Exponents -/

/-- The text of a sign that may be missing. -/
def signText : Option Sign → Text
  | none => []
  | some sign => [sign.char]

/-- A number with a sign in front that may be missing. -/
def signedNumber (sign : Option Sign) (n : Nat) : Int :=
  Double.signedInteger (decide (sign = some .minus)) n

section Exponents

variable {mark : Char} (hmark : mark = 'e' ∨ mark = 'E') (sign : Option Sign)
include hmark

theorem readExponentPart?_sign (sign : Sign) (s : Text) :
    readExponentPart? (mark :: sign.char :: s) =
      (takeDecimal? s).map fun (digits, rest) =>
        (some (signedNumber (some sign) (numberInBase 10 digits)), rest) := by
  rw [readExponentPart?.eq_def]
  cases sign with
  | plus => exact if_pos hmark
  | minus => exact if_pos hmark

theorem readExponentPart?_cons {c : Char} (hplus : c ≠ '+') (hminus : c ≠ '-') (s : Text) :
    readExponentPart? (mark :: c :: s) =
      if c.isDigit then
        (takeDecimal? (c :: s)).map fun (digits, rest) => (some (numberInBase 10 digits : Int), rest)
      else if endsNumeral (mark :: c :: s) then some (none, mark :: c :: s)
      else none := by
  rw [readExponentPart?]
  · rw [if_pos hmark]
    rfl
  · exact fun _ heq => hplus (List.cons.inj heq).1
  · exact fun _ heq => hminus (List.cons.inj heq).1

/-- An exponent of ASCII digits. -/
theorem readExponentPart?_digits (hne : digits ≠ []) (hdigits : ∀ c ∈ digits, c.isDigit = true)
    (hrest : EndsDigits rest) :
    readExponentPart? (mark :: (signText sign ++ (digits ++ rest))) =
      some (some (signedNumber sign (numberInBase 10 digits)), rest) := by
  have htake := takeDecimal?_digits hne hdigits hrest
  cases sign with
  | some sign =>
      rw [signText, List.singleton_append, readExponentPart?_sign hmark, htake]
      rfl
  | none =>
      obtain ⟨c, others, rfl⟩ := List.exists_cons_of_ne_nil hne
      have hc : c.isDigit = true := hdigits c List.mem_cons_self
      have hother : ∀ d : Char, d.isDigit = false → c ≠ d := by
        rintro d hd rfl
        rw [hd] at hc
        cases hc
      rw [signText, List.nil_append, List.cons_append,
        readExponentPart?_cons hmark (hother _ (by decide)) (hother _ (by decide)), if_pos hc,
        ← List.cons_append, htake]
      rfl

/-- The mark of an exponent is no word with a character outside ASCII behind it, so that such an
exponent is refused. -/
theorem readExponentPart?_of_not_ascii {c : Char} (hc : 0x80 ≤ c.toNat) (s : Text) :
    readExponentPart? (mark :: (signText sign ++ c :: s)) = none := by
  have hdigit := isDigit_of_not_ascii hc
  have hother : ∀ d : Char, d.toNat < 0x80 → c ≠ d := by
    rintro d hd rfl
    exact Nat.not_le.mpr hd hc
  cases sign with
  | some sign =>
      have htake : takeDecimal? (c :: s) = none := by
        rw [takeDecimal?, List.head?_cons, Option.any_some, hdigit, if_neg (by decide)]
      rw [signText, List.singleton_append, readExponentPart?_sign hmark, htake]
      rfl
  | none =>
      have hends : endsNumeral (mark :: c :: s) = false := by
        have hl : c ≠ 'l' := hother 'l' (by decide)
        rcases hmark with rfl | rfl <;> simp [endsNumeral, isNameLike, List.isPrefixOf, hl.symm]
      rw [signText, List.nil_append,
        readExponentPart?_cons hmark (hother _ (by decide)) (hother _ (by decide)), hdigit,
        if_neg (by decide), hends, if_neg (by decide)]

end Exponents

/-! ## Numerals -/

section Numerals

variable (hwhole : ∀ c ∈ whole, c.isDigit = true)

/-- Behind the point: the longest run of digits, and an exponent. -/
theorem readFraction?_digits (hfraction : ∀ c ∈ fraction, c.isDigit = true)
    (hrest : EndsDigits rest) :
    readFraction? whole (fraction ++ rest) =
      (readExponentPart? rest).bind fun (e, rest) => finishReal? whole fraction (e.getD 0) rest := by
  cases fraction with
  | nil =>
      have hhead : rest.head?.any Char.isDigit = false := by
        cases rest with
        | nil => rfl
        | cons c rest => exact (hrest c rfl).1
      rw [List.nil_append, readFraction?, hhead]
      rfl
  | cons c fraction =>
      have htake := takeDecimal?_digits (List.cons_ne_nil c fraction) hfraction hrest
      have hhead : (c :: fraction ++ rest).head?.any Char.isDigit = true :=
        hfraction c List.mem_cons_self
      rw [readFraction?, hhead, htake]
      rfl

include hwhole

/-- A numeral with a point. -/
theorem readNumeral?_point (hfraction : ∀ c ∈ fraction, c.isDigit = true)
    (hrest : EndsDigits rest) :
    readNumeral? (whole ++ '.' :: (fraction ++ rest)) =
      (readExponentPart? rest).bind fun (e, rest) => finishReal? whole fraction (e.getD 0) rest := by
  rw [← readFraction?_digits hfraction hrest]
  by_cases hnil : whole = []
  · rw [hnil, List.nil_append]
    rfl
  · have hpoint : EndsDigits ('.' :: (fraction ++ rest)) := by
      intro c hc
      rw [← Option.some.inj hc]
      exact ⟨by decide, by decide⟩
    have hmarks : ∀ mark ∈ ['x', 'X', 'o', 'O', 'b', 'B'],
        ('.' :: (fraction ++ rest)).head? ≠ some mark := by
      intro mark hmark heq
      rw [← Option.some.inj heq] at hmark
      exact absurd hmark (by decide)
    rw [readNumeral?_of_digits hnil hwhole hmarks, readDecimalNumeral?,
      takeDecimal?_digits hnil hwhole hpoint]
    rfl

/-- A numeral without a point, but with an exponent. -/
theorem readNumeral?_exponent (hne : whole ≠ []) {mark : Char} (hmark : mark = 'e' ∨ mark = 'E')
    (s : Text) (hexponent : ∀ e rest, readExponentPart? (mark :: s) = some (e, rest) →
      e.isSome = true) :
    readNumeral? (whole ++ mark :: s) =
      (readExponentPart? (mark :: s)).bind fun (e, rest) => finishReal? whole [] (e.getD 0) rest := by
  have hends : EndsDigits (mark :: s) := by
    intro c hc
    rw [← Option.some.inj hc]
    rcases hmark with rfl | rfl <;> decide
  have hmarks : ∀ d ∈ ['x', 'X', 'o', 'O', 'b', 'B'], (mark :: s).head? ≠ some d := by
    intro d hd heq
    rw [← Option.some.inj heq] at hd
    rcases hmark with rfl | rfl <;> exact absurd hd (by decide)
  rw [readNumeral?_of_digits hne hwhole hmarks, readDecimalNumeral?,
    takeDecimal?_digits hne hwhole hends]
  simp only [Option.bind_eq_bind, Option.bind_some]
  split
  · rename_i heq
    rw [(List.cons.inj heq).1] at hmark
    exact absurd hmark (by decide)
  · cases hread : readExponentPart? (mark :: s) with
    | none => rfl
    | some read =>
        obtain ⟨e, rest⟩ := read
        simp only [Option.bind_some, hexponent e rest hread, Bool.true_or, if_true]

end Numerals

end SignalLab.Expression
