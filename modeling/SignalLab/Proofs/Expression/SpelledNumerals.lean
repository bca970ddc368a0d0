import SignalLab.Proofs.Expression.Operands
import SignalLab.Proofs.Expression.Spellings

/-!
# Spelled numerals — what the scanner makes of bare literals

In ASCII a literal with a point or an exponent is the numeral of its double, and digits alone are that
of an integer unless there are zeros in front of others or too many digits.  A digit of another script
stops the scanner wherever it stands: the numeral before it must not end there, and no name begins with
it.
-/

namespace SignalLab.Expression

open Text

/-! ## Digits of other scripts -/

/-- A decimal digit that no numeral is written with. -/
structure IsForeignDigit (c : Char) : Prop where
  decimal : isDecimalDigit c = true
  not_ascii : 0x80 ≤ c.toNat

/-- The first digit of another script, unless there is none. -/
theorem isDigit_or_exists_foreign {digits : Text} (h : ∀ c ∈ digits, isDecimalDigit c = true) :
    (∀ c ∈ digits, c.isDigit = true) ∨ ∃ front c behind, digits = front ++ c :: behind ∧
      (∀ d ∈ front, d.isDigit = true) ∧ IsForeignDigit c := by
  induction digits with
  | nil => exact .inl (List.forall_mem_nil _)
  | cons d digits ih =>
      have hd : isDecimalDigit d = true := h d List.mem_cons_self
      by_cases hascii : d.toNat < 0x80
      · have hdigit := isDigit_of_isDecimalDigit hd hascii
        refine (ih fun c hc => h c (List.mem_cons_of_mem _ hc)).imp (fun hall => ?_) ?_
        · exact List.forall_mem_cons.mpr ⟨hdigit, hall⟩
        · rintro ⟨front, c, behind, rfl, hfront, hc⟩
          exact ⟨d :: front, c, behind, rfl, List.forall_mem_cons.mpr ⟨hdigit, hfront⟩, hc⟩
      · exact .inr ⟨[], d, digits, rfl, List.forall_mem_nil _, hd, Nat.not_lt.mp hascii⟩

namespace IsForeignDigit

variable {c : Char} (h : IsForeignDigit c)
include h

/-- A foreign digit is no ASCII character. -/
theorem ne {d : Char} (hd : d.toNat < 0x80) : c ≠ d := by
  rintro rfl
  exact Nat.not_le.mpr hd h.not_ascii

/-- It is a character of names. -/
theorem isNameLike : isNameLike c = true := by
  rw [Expression.isNameLike, decide_eq_true h.not_ascii, Bool.or_true]

/-- It bounds a numeral. -/
theorem bounded (s : Text) : Bounded (c :: s) := by
  intro d hd
  rw [← Option.some.inj hd]
  exact .inr h.not_ascii

/-- No numeral ends before it. -/
theorem finishReal? (whole fraction : Text) (e : Int) (s : Text) :
    finishReal? whole fraction e (c :: s) = none := by
  rw [finishReal?_of_bounded (h.bounded s), endsNumeral_of_not_ascii h.not_ascii]
  rfl

/-- It begins no word. -/
theorem wordToken? (word : Text) : wordToken? (c :: word) = none := by
  have hkeyword : keyword? (c :: word) = none := by
    cases hkeyword : keyword? (c :: word) with
    | none => rfl
    | some k =>
        have hall : ∀ w ∈ reservedWords, w.head?.all (fun c => decide (c.toNat < 0x80)) = true := by
          decide +kernel
        have hascii := of_decide_eq_true (hall _ (mem_reservedWords hkeyword))
        exact absurd h.not_ascii (Nat.not_le.mpr hascii)
  rw [Expression.wordToken?, hkeyword]
  simp only [isNameStart_of_isDecimalDigit h.decimal, Bool.false_and, Bool.false_eq_true, if_false]

theorem add? (m : TextMark) : m.add? c = none := by
  have hlower : c.toLower = c := by
    refine dif_neg fun hupper => ?_
    have halpha : c.isAlpha = true := (Bool.or_eq_true _ _).mpr (.inl (decide_eq_true hupper))
    have hbounds := toNat_of_isAlpha halpha
    have hlarge := h.not_ascii
    omega
  rw [TextMark.add?.eq_def, hlower]
  split
  case h_5 => rfl
  all_goals exact absurd rfl (h.ne (by decide))

/-- No token begins with such a digit. -/
theorem scan (s : Text) (n depth : Nat) : scan n depth (c :: s) = none := by
  cases n with
  | zero => rfl
  | succ n =>
      have hquote : ¬ (c = '\'' ∨ c = '"') := by
        rintro (heq | heq) <;> exact h.ne (by decide) heq
      have hplain : BeginsPlainly c s := {
        gap := isGap_of_isNameLike h.isNameLike
        comment := h.ne (by decide)
        line := h.ne (by decide)
        joined := h.ne (by decide)
        numeral := by rw [beginsNumeral_cons (h.ne (by decide)), isDigit_of_not_ascii h.not_ascii]
        mark := by rw [takeTextMark?, if_neg hquote, h.add?] }
      rw [hplain.scan_word h.isNameLike, takeName, List.takeWhile_cons_of_pos h.isNameLike,
        h.wordToken?]
      rfl

/-- Nor does one begin with a point before it. -/
theorem scan_point (s : Text) (n depth : Nat) : Expression.scan n depth ('.' :: c :: s) = none := by
  cases n with
  | zero => rfl
  | succ n =>
      have hplain : BeginsPlainly '.' (c :: s) := {
        gap := by decide
        comment := by decide
        line := by decide
        joined := by decide
        numeral := isDigit_of_not_ascii h.not_ascii
        mark := rfl }
      have hsymbol : symbol? ('.' :: c :: s) = some (.dot, c :: s) := by
        rw [symbol?]
        intro t heq
        exact h.ne (by decide) (List.cons.inj heq).1
      rw [hplain.scan_symbol (by decide), hsymbol]
      show (Expression.scan n _ (c :: s)).map (.symbol .dot :: ·) = none
      rw [h.scan]
      rfl

end IsForeignDigit

/-! ## Exponents -/

namespace Exponent

variable (e : Exponent)

/-- An exponent is its mark, its sign and its digits. -/
theorem text_append (rest : Text) :
    e.text ++ rest = e.mark :: (signText e.sign ++ (e.digits ++ rest)) := by
  rw [text, List.cons_append, List.append_assoc]

/-- An exponent ends the digits in front of it. -/
theorem endsDigits (rest : Text) : EndsDigits (e.text ++ rest) := by
  intro c hc
  rw [← Option.some.inj hc]
  rcases e.mark_eq with hmark | hmark <;> (rw [hmark]; decide)

variable {e} in
/-- An exponent of ASCII digits is read. -/
theorem readExponentPart?_text (hdigits : ∀ c ∈ e.digits, c.isDigit = true) {rest : Text}
    (hrest : EndsDigits rest) : readExponentPart? (e.text ++ rest) = some (some e.value, rest) := by
  rw [text_append, readExponentPart?_digits e.mark_eq e.sign e.digits_ne_nil hdigits hrest,
    numberInBase_digits hdigits]
  rfl

variable {e} in
/-- Any other is refused, or left behind its ASCII digits. -/
theorem readExponentPart?_foreign {front behind : Text} {c : Char}
    (hdigits : e.digits = front ++ c :: behind) (hfront : ∀ d ∈ front, d.isDigit = true)
    (hc : IsForeignDigit c) (rest : Text) :
    readExponentPart? (e.text ++ rest) = none ∨
      ∃ n, readExponentPart? (e.text ++ rest) = some (some n, c :: (behind ++ rest)) := by
  rw [text_append, hdigits, List.append_assoc, List.cons_append]
  by_cases hnil : front = []
  · rw [hnil, List.nil_append]
    exact .inl (readExponentPart?_of_not_ascii e.mark_eq e.sign hc.not_ascii _)
  · exact .inr ⟨_, readExponentPart?_digits e.mark_eq e.sign hnil hfront (hc.bounded _).endsDigits⟩

theorem readNumeral?_text {whole rest : Text} (hne : whole ≠ [])
    (hwhole : ∀ c ∈ whole, c.isDigit = true)
    (h : ∀ n behind, readExponentPart? (e.text ++ rest) = some (n, behind) → n.isSome = true) :
    readNumeral? (whole ++ (e.text ++ rest)) =
      (readExponentPart? (e.text ++ rest)).bind fun (n, behind) =>
        finishReal? whole [] (n.getD 0) behind := by
  rw [text_append] at h ⊢
  exact readNumeral?_exponent hwhole hne e.mark_eq _ h

end Exponent

/-- So does what stands behind them where there is no exponent. -/
theorem endsDigits_exponentText {e : Option Exponent} {rest : Text} (hrest : EndsDigits rest) :
    EndsDigits (exponentText e ++ rest) := by
  cases e with
  | none => exact hrest
  | some e => exact e.endsDigits rest

/-- An exponent of ASCII digits is read, and so is a missing one. -/
theorem readExponentPart?_exponentText {e : Option Exponent}
    (he : ∀ found, e = some found → ∀ c ∈ found.digits, c.isDigit = true) {rest : Text}
    (hrest : Bounded rest) :
    readExponentPart? (exponentText e ++ rest) = some (e.map Exponent.value, rest) := by
  cases e with
  | none => exact readExponentPart?_of_bounded hrest
  | some e => exact e.readExponentPart?_text (he e rfl) hrest.endsDigits

/-! ## Literals -/

/-- Where a numeral begins that cannot be read the scanner fails. -/
theorem scan_of_readNumeral?_eq_none {s : Text} (hbegins : beginsNumeral s = true)
    (hread : readNumeral? s = none) (n depth : Nat) : scan n depth s = none := by
  cases n with
  | zero => rfl
  | succ n =>
      rw [scan_numeral hbegins, hread]
      rfl

namespace Spelling

variable {sp : Spelling}

section Bodies

variable {fraction : Text} {e : Exponent}

/-- The text of a spelling with a point. -/
theorem body_of_fraction (hfraction : sp.fraction = some fraction) (rest : Text) :
    sp.body ++ rest = sp.whole ++ '.' :: (fraction ++ (exponentText sp.exponent ++ rest)) := by
  rw [body, hfraction, fractionText, List.append_assoc, List.append_assoc, List.cons_append]

/-- The text of a spelling with an exponent and no point. -/
theorem body_of_exponent (hfraction : sp.fraction = none) (he : sp.exponent = some e)
    (rest : Text) : sp.body ++ rest = sp.whole ++ (e.text ++ rest) := by
  rw [body, hfraction, he, fractionText, exponentText, List.nil_append, List.append_assoc]

/-- The text of a spelling with neither. -/
theorem body_of_whole (hfraction : sp.fraction = none) (he : sp.exponent = none) :
    sp.body = sp.whole := by
  rw [body, hfraction, he, fractionText, exponentText, List.append_nil, List.append_nil]

/-- Without a point there are digits in front. -/
theorem whole_ne_nil (hfraction : sp.fraction = none) : sp.whole ≠ [] :=
  sp.has_digit.resolve_right fun h => h (by rw [hfraction]; rfl)

end Bodies

/-- The digits are those of ASCII. -/
structure IsAscii (sp : Spelling) : Prop where
  whole : ∀ c ∈ sp.whole, c.isDigit = true
  fraction : ∀ c ∈ sp.fraction.getD [], c.isDigit = true
  exponent : ∀ e, sp.exponent = some e → ∀ c ∈ e.digits, c.isDigit = true

/-- Whether there are digits alone, but for the sign. -/
def isWhole (sp : Spelling) : Bool :=
  sp.fraction.isNone && sp.exponent.isNone

/-- The token of a literal in ASCII without its sign, if it has one. -/
def token? (sp : Spelling) : Option Token :=
  if sp.isWhole then integerToken? sp.whole
  else some (.real (Double.ofDecimal false sp.coefficient sp.scale))

/-- A spelling in ASCII begins a numeral. -/
theorem beginsNumeral_body (hwhole : ∀ c ∈ sp.whole, c.isDigit = true)
    (hfraction : ∀ c ∈ sp.fraction.getD [], c.isDigit = true) (rest : Text) :
    beginsNumeral (sp.body ++ rest) = true := by
  by_cases hnil : sp.whole = []
  · have hne := sp.has_digit.resolve_left (not_not_intro hnil)
    cases hpoint : sp.fraction with
    | none => exact absurd hnil (whole_ne_nil hpoint)
    | some fraction =>
        rw [hpoint] at hne hfraction
        obtain ⟨c, others, rfl⟩ := List.exists_cons_of_ne_nil hne
        rw [body_of_fraction hpoint, hnil]
        exact hfraction c List.mem_cons_self
  · rw [body, List.append_assoc]
    exact beginsNumeral_digits hnil hwhole

section Ascii

variable (h : sp.IsAscii)
include h

/-- What is read for a double is the double of the literal. -/
theorem IsAscii.finishReal?_eq {rest : Text} (hrest : Delimited rest) :
    finishReal? sp.whole (sp.fraction.getD []) (exponentValue sp.exponent) rest =
      some (.real (Double.ofDecimal false sp.coefficient sp.scale), rest) := by
  have hnumber : numberInBase 10 (sp.whole ++ sp.fraction.getD []) = sp.coefficient :=
    numberInBase_digits fun c hc => (List.mem_append.mp hc).elim (h.whole c) (h.fraction c)
  rw [finishReal?_of_bounded hrest.bounded, if_pos (endsNumeral_of_delimited hrest), hnumber]
  rfl

/-- In ASCII the numeral at the front is the whole literal. -/
theorem IsAscii.readNumeral?_body {rest : Text} (hrest : Delimited rest) :
    readNumeral? (sp.body ++ rest) = sp.token?.map fun token => (token, rest) := by
  have hfinish := h.finishReal?_eq hrest
  rw [token?, isWhole]
  -- the reader goes by what stands behind the whole digits: a point, an exponent or nothing
  cases hfraction : sp.fraction with
  | some fraction =>
      have hdigits : ∀ c ∈ fraction, c.isDigit = true :=
        fun c hc => h.fraction c (by rw [hfraction]; exact hc)
      rw [hfraction] at hfinish
      rw [body_of_fraction hfraction,
        readNumeral?_point h.whole hdigits (endsDigits_exponentText hrest.bounded.endsDigits),
        readExponentPart?_exponentText h.exponent hrest.bounded]
      cases hexponent : sp.exponent <;> (rw [hexponent] at hfinish; exact hfinish)
  | none =>
      have hne : sp.whole ≠ [] := whole_ne_nil hfraction
      rw [hfraction] at hfinish
      cases hexponent : sp.exponent with
      | none =>
          rw [body_of_whole hfraction hexponent, readNumeral?_digits hne h.whole hrest.bounded,
            if_pos (endsNumeral_of_delimited hrest)]
          rfl
      | some e =>
          have hread := e.readExponentPart?_text (h.exponent e hexponent) hrest.bounded.endsDigits
          rw [hexponent] at hfinish
          rw [body_of_exponent hfraction hexponent, e.readNumeral?_text hne h.whole, hread]
          · exact hfinish
          · intro n behind heq
            rw [hread] at heq
            cases heq
            rfl

end Ascii

section Foreign

variable {front behind : Text} {c : Char} (hfront : ∀ d ∈ front, d.isDigit = true)
  (hc : IsForeignDigit c)
include hfront hc

/-- A foreign digit in front of the point makes the scanner fail. -/
theorem scan_of_foreign_whole (hsplit : sp.whole = front ++ c :: behind) (rest : Text)
    (n depth : Nat) : scan n depth (sp.body ++ rest) = none := by
  have hbody : sp.body ++ rest =
      front ++ c :: (behind ++ (fractionText sp.fraction ++ (exponentText sp.exponent ++ rest))) := by
    rw [body, hsplit]
    simp only [List.append_assoc, List.cons_append]
  rw [hbody]
  by_cases hnil : front = []
  · rw [hnil]
    exact hc.scan _ n depth
  · refine scan_of_readNumeral?_eq_none (beginsNumeral_digits hnil hfront) ?_ n depth
    rw [readNumeral?_digits hnil hfront (hc.bounded _), endsNumeral_of_not_ascii hc.not_ascii]
    rfl

variable (hwhole : ∀ d ∈ sp.whole, d.isDigit = true)
include hwhole

/-- So does one behind the point. -/
theorem scan_of_foreign_fraction (hsplit : sp.fraction = some (front ++ c :: behind)) (rest : Text)
    (n depth : Nat) : scan n depth (sp.body ++ rest) = none := by
  rw [body_of_fraction hsplit, List.append_assoc, List.cons_append]
  by_cases hnil : sp.whole = [] ∧ front = []
  · rw [hnil.1, hnil.2]
    exact hc.scan_point _ n depth
  · refine scan_of_readNumeral?_eq_none ?_ ?_ n depth
    · cases hsp : sp.whole with
      | nil =>
          obtain ⟨d, others, rfl⟩ := List.exists_cons_of_ne_nil fun h => hnil ⟨hsp, h⟩
          exact hfront d List.mem_cons_self
      | cons d others =>
          rw [hsp] at hwhole
          exact beginsNumeral_digits (List.cons_ne_nil d others) hwhole
    · rw [readNumeral?_point hwhole hfront (hc.bounded _).endsDigits,
        readExponentPart?_of_bounded (hc.bounded _)]
      exact hc.finishReal? _ _ _ _

/-- So does one in the exponent. -/
theorem scan_of_foreign_exponent {e : Exponent} (he : sp.exponent = some e)
    (hfraction : ∀ d ∈ sp.fraction.getD [], d.isDigit = true)
    (hsplit : e.digits = front ++ c :: behind) (rest : Text) (n depth : Nat) :
    scan n depth (sp.body ++ rest) = none := by
  have hread := e.readExponentPart?_foreign hsplit hfront hc rest
  refine scan_of_readNumeral?_eq_none (beginsNumeral_body hwhole hfraction rest) ?_ n depth
  -- the exponent is refused, or the numeral does not end behind it
  have hfinish : ∀ fraction : Text,
      ((readExponentPart? (e.text ++ rest)).bind fun (n, behind) =>
        finishReal? sp.whole fraction (n.getD 0) behind) = none := by
    intro fraction
    rcases hread with hnone | ⟨n, hsome⟩
    · rw [hnone]
      rfl
    · rw [hsome]
      exact hc.finishReal? _ _ _ _
  cases hpoint : sp.fraction with
  | some fraction =>
      have hdigits : ∀ d ∈ fraction, d.isDigit = true :=
        fun d hd => hfraction d (by rw [hpoint]; exact hd)
      rw [body_of_fraction hpoint, he, exponentText,
        readNumeral?_point hwhole hdigits (e.endsDigits rest)]
      exact hfinish fraction
  | none =>
      rw [body_of_exponent hpoint he, e.readNumeral?_text (whole_ne_nil hpoint) hwhole]
      · exact hfinish []
      · intro k behind heq
        rcases hread with hnone | ⟨n, hsome⟩
        · rw [hnone] at heq
          cases heq
        · rw [hsome] at heq
          cases heq
          rfl

end Foreign

/-- A digit of another script stops the scanner. -/
theorem scan_body_of_not_isAscii (h : ¬ sp.IsAscii) (rest : Text) (n depth : Nat) :
    scan n depth (sp.body ++ rest) = none := by
  rcases isDigit_or_exists_foreign sp.whole_decimal with
    hwhole | ⟨front, c, behind, hsplit, hfront, hc⟩
  swap
  · exact scan_of_foreign_whole hfront hc hsplit rest n depth
  rcases isDigit_or_exists_foreign sp.fraction_decimal with
    hfraction | ⟨front, c, behind, hsplit, hfront, hc⟩
  swap
  · cases hpoint : sp.fraction with
    | none =>
        rw [hpoint] at hsplit
        exact absurd hsplit.symm (by simp)
    | some fraction =>
        rw [hpoint] at hsplit
        exact scan_of_foreign_fraction hfront hc hwhole (hpoint.trans (congrArg some hsplit)) rest
          n depth
  cases he : sp.exponent with
  | none => exact absurd ⟨hwhole, hfraction, fun e heq => by rw [he] at heq; cases heq⟩ h
  | some e =>
      rcases isDigit_or_exists_foreign e.digits_decimal with
        hdigits | ⟨front, c, behind, hsplit, hfront, hc⟩
      · refine absurd ⟨hwhole, hfraction, fun e' heq => ?_⟩ h
        rw [he] at heq
        cases heq
        exact hdigits
      · exact scan_of_foreign_exponent hfront hc hwhole he hfraction hsplit rest n depth

end Spelling

end SignalLab.Expression
