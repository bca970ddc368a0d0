import SignalLab.Proofs.Expression.SpelledNumerals

/-!
# Literal values — bare literals given to the evaluator

A literal in ASCII that is a numeral is an operand, and the evaluator gives it the value of its
quantity: the double itself, or the integer that its digits write, negated behind a minus sign.  Any
other literal is no expression.  Parentheses around it change nothing (`Spelling.valueOf_group`).
-/

namespace SignalLab.Expression

open Text

/-! ## Characters -/

/-- A character of literals can stand in an operand. -/
theorem isOperandChar_of_isLiteralChar {c : Char} (hc : IsLiteralChar c) : IsOperandChar c := by
  have hblank := isBlank_of_isLiteralChar hc
  rcases hc with hdigit | hmark
  · refine .inl ⟨?_, hblank⟩
    by_cases hascii : c.toNat < 0x80
    · exact isNameLike_of_isDigit (isDigit_of_isDecimalDigit hdigit hascii)
    · rw [isNameLike, decide_eq_true (Nat.not_lt.mp hascii), Bool.or_true]
  · simp only [List.mem_cons, List.not_mem_nil, or_false] at hmark
    rcases hmark with rfl | rfl | rfl | rfl | rfl
    · exact .inr (by decide)
    · exact .inr (by decide)
    · exact .inr (by decide)
    · exact .inl (by decide)
    · exact .inl (by decide)

/-- A sign is a character of literals, in ASCII. -/
theorem isLiteralChar_of_signText {sign : Option Sign} {c : Char} (hc : c ∈ signText sign) :
    IsLiteralChar c ∧ c.toNat < 0x80 := by
  cases sign with
  | none => cases hc
  | some sign =>
      rw [List.mem_singleton.mp hc]
      cases sign with
      | plus => exact ⟨.inr (by decide), by decide⟩
      | minus => exact ⟨.inr (by decide), by decide⟩

/-- An exponent is in ASCII but for its digits. -/
theorem isLiteralChar_of_exponentText {e : Option Exponent} {c : Char}
    (hc : c ∈ exponentText e) :
    IsLiteralChar c ∧ (c.toNat < 0x80 ∨ ∃ found, e = some found ∧ c ∈ found.digits) := by
  cases e with
  | none => cases hc
  | some e =>
      rcases List.mem_cons.mp hc with rfl | hc
      · rcases e.mark_eq with hmark | hmark
        · rw [hmark]
          exact ⟨.inr (by decide), .inl (by decide)⟩
        · rw [hmark]
          exact ⟨.inr (by decide), .inl (by decide)⟩
      · rcases List.mem_append.mp hc with hc | hc
        · exact ⟨(isLiteralChar_of_signText hc).1, .inl (isLiteralChar_of_signText hc).2⟩
        · exact ⟨.inl (e.digits_decimal c hc), .inr ⟨e, rfl, hc⟩⟩

namespace Spelling

variable {sp : Spelling}

/-- The characters of a literal, and where one outside ASCII may stand. -/
theorem isLiteralChar_of_body {c : Char} (hc : c ∈ sp.body) :
    IsLiteralChar c ∧ (c.toNat < 0x80 ∨ c ∈ sp.whole ∨ c ∈ sp.fraction.getD [] ∨
      ∃ e, sp.exponent = some e ∧ c ∈ e.digits) := by
  rcases List.mem_append.mp hc with hc | hc
  · exact ⟨.inl (sp.whole_decimal c hc), .inr (.inl hc)⟩
  rcases List.mem_append.mp hc with hc | hc
  · have hdecimal := sp.fraction_decimal c
    cases hfraction : sp.fraction with
    | none =>
        rw [hfraction] at hc
        cases hc
    | some fraction =>
        rw [hfraction] at hc hdecimal
        rcases List.mem_cons.mp hc with rfl | hc
        · exact ⟨.inr (by decide), .inl (by decide)⟩
        · exact ⟨.inl (hdecimal hc), .inr (.inr (.inl hc))⟩
  · obtain ⟨hchar, hplace⟩ := isLiteralChar_of_exponentText hc
    exact ⟨hchar, hplace.imp id fun h => .inr (.inr h)⟩

/-- A spelling is in ASCII exactly if its text is. -/
theorem isAscii_iff : sp.IsAscii ↔ ∀ c ∈ sp.text, c.toNat < 0x80 := by
  have hdigit : ∀ {c : Char}, c.isDigit = true → c.toNat < 0x80 := by
    intro c hc
    have hbounds := toNat_of_isDigit hc
    omega
  constructor
  · intro h c hc
    rcases List.mem_append.mp hc with hc | hc
    · exact (isLiteralChar_of_signText hc).2
    · rcases (isLiteralChar_of_body hc).2 with hascii | hwhole | hfraction | ⟨e, he, hmem⟩
      · exact hascii
      · exact hdigit (h.whole c hwhole)
      · exact hdigit (h.fraction c hfraction)
      · exact hdigit (h.exponent e he c hmem)
  · intro h
    -- a decimal digit in ASCII is one of the ten digits
    have hbody : ∀ c ∈ sp.body, c.toNat < 0x80 := fun c hc => h c (List.mem_append_right _ hc)
    refine ⟨fun c hc => ?_, fun c hc => ?_, fun e he c hc => ?_⟩
    · exact isDigit_of_isDecimalDigit (sp.whole_decimal c hc)
        (hbody c (List.mem_append_left _ hc))
    · refine isDigit_of_isDecimalDigit (sp.fraction_decimal c hc) (hbody c ?_)
      cases hfraction : sp.fraction with
      | none =>
          rw [hfraction] at hc
          cases hc
      | some fraction =>
          rw [hfraction] at hc
          rw [body, hfraction]
          exact List.mem_append_right _ (List.mem_append_left _ (List.mem_cons_of_mem _ hc))
    · refine isDigit_of_isDecimalDigit (e.digits_decimal c hc) (hbody c ?_)
      rw [body, he]
      exact List.mem_append_right _ (List.mem_append_right _
        (List.mem_cons_of_mem _ (List.mem_append_right _ hc)))

/-- A spelling has digits in front of the point or behind it. -/
theorem body_ne_nil (sp : Spelling) : sp.body ≠ [] := by
  intro hnil
  obtain ⟨hwhole, hrest⟩ := List.append_eq_nil_iff.mp hnil
  have hfraction := sp.has_digit.resolve_left (not_not_intro hwhole)
  cases hpoint : sp.fraction with
  | none =>
      rw [hpoint] at hfraction
      exact hfraction rfl
  | some fraction =>
      rw [hpoint] at hrest
      cases hrest

theorem isOperandChar_of_body {c : Char} (hc : c ∈ sp.body) : IsOperandChar c :=
  isOperandChar_of_isLiteralChar (isLiteralChar_of_body hc).1

/-- A spelling has the characters of an operand only. -/
theorem isOperandChar_of_text {c : Char} (hc : c ∈ sp.text) : IsOperandChar c := by
  rcases List.mem_append.mp hc with hc | hc
  · exact isOperandChar_of_isLiteralChar (isLiteralChar_of_signText hc).1
  · exact isOperandChar_of_body hc

/-! ## Numerals -/

/-- A spelling with a token is scanned as it, whatever delimits it. -/
theorem scans_body (h : sp.IsAscii) {token : Token} (htoken : sp.token? = some token) (depth : Nat)
    {rest : Text} (hrest : Delimited rest) :
    Scans depth (sp.body ++ rest) [token] depth rest := by
  have hbegins := beginsNumeral_body h.whole h.fraction rest
  have hpos : 0 < sp.body.length := List.length_pos_iff.mpr sp.body_ne_nil
  have hlength : (sp.body ++ rest).length = sp.body.length + rest.length := List.length_append
  refine .step (by rw [hlength, List.length_singleton]; omega) (by omega) fun n => ?_
  rw [scan_numeral hbegins, h.readNumeral?_body hrest, htoken]
  rfl

/-- The operand of an integer in ASCII. -/
def integerOperand (h : sp.IsAscii) {n : Nat} (htoken : sp.token? = some (.integer n)) : Operand :=
  .single sp.body (.integer n) (.literal (.integer n)) (fun _ hc => isOperandChar_of_body hc)
    (scans_body h htoken) (fun _ _ _ => operand_integer n) (fun _ _ => rfl) rfl

/-- The operand of a double in ASCII. -/
def realOperand (h : sp.IsAscii) {x : Float} (htoken : sp.token? = some (.real x)) : Operand :=
  .single sp.body (.real x) (.literal (.real x)) (fun _ hc => isOperandChar_of_body hc)
    (scans_body h htoken) (fun _ _ _ => operand_real x) (fun _ _ => rfl) rfl

end Spelling

/-- An operand with a sign in front that may be missing. -/
def Operand.withSign (o : Operand) : Option Sign → Operand
  | none => o
  | some sign => o.signed sign

/-- A sign stands in front of an operand. -/
theorem Operand.text_withSign (o : Operand) (sign : Option Sign) :
    (o.withSign sign).text = signText sign ++ o.text := by
  cases sign with
  | none => rfl
  | some sign => rfl

/-- A minus sign turns the value of an operand around, and a plus sign keeps it. -/
theorem Operand.eval_withSign {o : Operand} {env : Environment} {q : Quantity}
    (ho : o.tree.eval env = .ok q) (sign : Option Sign) :
    (o.withSign sign).tree.eval env = .ok (if sign = some .minus then q.neg else q) := by
  cases sign with
  | none => exact ho
  | some sign =>
      show Tree.eval env (.unary sign.op o.tree) = _
      rw [Tree.eval, ho]
      cases sign with
      | plus => rfl
      | minus => rfl

namespace Spelling

variable {sp : Spelling} (env : Environment)

/-- What an operand for the text without the sign stands for, the text stands for with its sign. -/
theorem valueOf_of_operand {o : Operand} (ho : o.text = sp.body) {q : Quantity}
    (heval : o.tree.eval env = .ok q) (hq : ∀ z, q ≠ .complex z) :
    valueOf env sp.text =
        (if sp.sign = some .minus then q.neg else q).toReal.mapError .arithmetic ∧
      valueOf env ('(' :: (sp.text ++ [')'])) = valueOf env sp.text := by
  have htext : (o.withSign sp.sign).text = sp.text := by
    rw [o.text_withSign, ho, text]
  rw [← htext]
  refine ⟨Operand.valueOf_text (Operand.eval_withSign heval sp.sign) ?_,
    Operand.valueOf_group env _⟩
  intro z
  split
  · cases q with
    | complex z => exact absurd rfl (hq z)
    | _ =>
        intro hz
        cases hz
  · exact hq z

/-- A literal in ASCII with a point or an exponent has its value. -/
theorem valueOf_real (h : sp.IsAscii) (hwhole : sp.isWhole = false) :
    valueOf env sp.text = .ok sp.value ∧
      valueOf env ('(' :: (sp.text ++ [')'])) = valueOf env sp.text := by
  have htoken : sp.token? = some (.real (Double.ofDecimal false sp.coefficient sp.scale)) := by
    rw [token?, hwhole, if_neg Bool.false_ne_true]
  obtain ⟨hvalue, hgroup⟩ := valueOf_of_operand env (o := realOperand h htoken) rfl rfl
    fun z hz => by cases hz
  refine ⟨hvalue.trans ?_, hgroup⟩
  rw [value]
  by_cases hminus : sp.sign = some .minus
  · rw [if_pos hminus, decide_eq_true hminus, ← Double.neg_ofDecimal]
    rfl
  · rw [if_neg hminus, decide_eq_false hminus]
    rfl

/-- Digits in ASCII have the value of the integer that they write. -/
theorem valueOf_integer (h : sp.IsAscii) {n : Nat} (htoken : sp.token? = some (.integer n)) :
    valueOf env sp.text = (Double.ofInt (signedNumber sp.sign n)).mapError .arithmetic ∧
      valueOf env ('(' :: (sp.text ++ [')'])) = valueOf env sp.text := by
  obtain ⟨hvalue, hgroup⟩ := valueOf_of_operand env (o := integerOperand h htoken) rfl rfl
    fun z hz => by cases hz
  refine ⟨hvalue.trans ?_, hgroup⟩
  rw [signedNumber]
  by_cases hminus : sp.sign = some .minus
  · rw [if_pos hminus, decide_eq_true hminus]
    rfl
  · rw [if_neg hminus, decide_eq_false hminus]
    rfl

/-! ## Literals that are no expressions -/

theorem beginsOperand_body (sp : Spelling) (rest : Text) : BeginsOperand (sp.body ++ rest) := by
  obtain ⟨c, s, hs⟩ := List.exists_cons_of_ne_nil sp.body_ne_nil
  have hmem : c ∈ sp.body := hs ▸ List.mem_cons_self
  have hc : IsOperandChar c := isOperandChar_of_body hmem
  rw [hs]
  exact beginsOperand_of_isOperandChar hc _

/-- The tokens of a sign that may be missing. -/
def signTokens : Option Sign → List Token
  | none => []
  | some sign => [.symbol sign.symbol]

theorem scans_signText (sign : Option Sign) {rest : Text} (hrest : BeginsOperand rest)
    (depth : Nat) : Scans depth (signText sign ++ rest) (signTokens sign) depth rest := by
  cases sign with
  | none => exact .refl depth rest
  | some sign => exact .sign sign hrest depth

/-- A literal that the scanner refuses without its sign is refused with it, and in parentheses. -/
theorem valueOf_of_refused
    (h : ∀ {rest : Text}, Delimited rest → ∀ n depth, scan n depth (sp.body ++ rest) = none) :
    valueOf env sp.text = .error .syntaxError ∧
      valueOf env ('(' :: (sp.text ++ [')'])) = .error .syntaxError := by
  have htrim : sp.text.trim = sp.text :=
    trim_of_no_blank fun c hc => Operand.isBlank_of_isOperandChar (isOperandChar_of_text hc)
  have hsign : ∀ (depth : Nat) (rest : Text),
      Scans depth (sp.text ++ rest) (signTokens sp.sign) depth (sp.body ++ rest) := by
    intro depth rest
    rw [text, List.append_assoc]
    exact scans_signText sp.sign (sp.beginsOperand_body rest) depth
  constructor
  · have hscan : scan (sp.text.length + 1) 0 sp.text = none := by
      have hscans := hsign 0 []
      rw [List.append_nil] at hscans
      exact hscans.scan_eq_none fun n => h delimited_nil n 0
    rw [valueOf, Operand.parseText?_eq_none htrim
      (fun c hc => Operand.mem_marks_of_isOperandChar (isOperandChar_of_text hc)) hscan]
  · have hscans := (Scans.opening (by decide) (sp.text ++ [')'])).trans (hsign 1 [')'])
    have hscan := hscans.scan_eq_none fun n => h (delimited_cons (by decide) []) n 1
    rw [valueOf, Operand.parseText?_eq_none (Operand.trim_group sp.text)
      (Operand.mem_marks_of_group fun c hc => isOperandChar_of_text hc) hscan]

/-- A spelling without a token is a syntax error, in parentheses too. -/
theorem valueOf_of_token?_eq_none (h : sp.IsAscii) (htoken : sp.token? = none) :
    valueOf env sp.text = .error .syntaxError ∧
      valueOf env ('(' :: (sp.text ++ [')'])) = .error .syntaxError := by
  refine valueOf_of_refused env fun {rest} hrest n depth => ?_
  refine scan_of_readNumeral?_eq_none (beginsNumeral_body h.whole h.fraction rest) ?_ n depth
  rw [h.readNumeral?_body hrest, htoken]
  rfl

/-- So is one with a digit beyond ASCII. -/
theorem valueOf_of_not_isAscii (h : ¬ sp.IsAscii) :
    valueOf env sp.text = .error .syntaxError ∧
      valueOf env ('(' :: (sp.text ++ [')'])) = .error .syntaxError :=
  valueOf_of_refused env fun {rest} _ n depth => scan_body_of_not_isAscii h rest n depth

/-! ## Digits alone -/

/-- A whole spelling is nothing but its digits. -/
theorem body_of_isWhole (hwhole : sp.isWhole = true) : sp.body = sp.whole := by
  obtain ⟨hfraction, hexponent⟩ := (Bool.and_eq_true _ _).mp hwhole
  exact body_of_whole (Option.isNone_iff_eq_none.mp hfraction)
    (Option.isNone_iff_eq_none.mp hexponent)

/-- Its coefficient is the number that the digits say. -/
theorem coefficient_of_isWhole (hwhole : sp.isWhole = true) (h : sp.IsAscii) :
    numberInBase 10 sp.whole = sp.coefficient := by
  obtain ⟨hfraction, -⟩ := (Bool.and_eq_true _ _).mp hwhole
  rw [numberInBase_digits h.whole, coefficient, Option.isNone_iff_eq_none.mp hfraction]
  exact congrArg numberIn (List.append_nil _).symm

/-- Its value is this number, rounded to a double. -/
theorem value_of_isWhole (hwhole : sp.isWhole = true) :
    sp.value = Double.ofDecimal (decide (sp.sign = some .minus)) sp.coefficient 0 := by
  obtain ⟨hfraction, hexponent⟩ := (Bool.and_eq_true _ _).mp hwhole
  rw [value, scale, Option.isNone_iff_eq_none.mp hfraction,
    Option.isNone_iff_eq_none.mp hexponent]
  rfl

/-! ## All literals -/

/-- Its token is an integer, if zeros in front do not spoil it. -/
theorem token?_of_isWhole (hwhole : sp.isWhole = true) (h : sp.IsAscii) :
    sp.token? = none ∨ sp.token? = some (.integer sp.coefficient) := by
  rw [token?, hwhole, if_pos rfl, integerToken?, coefficient_of_isWhole hwhole h]
  split
  · exact .inl rfl
  · split
    · exact .inl rfl
    · exact .inr rfl

/-- Parentheses around a literal change nothing. -/
theorem valueOf_group : valueOf env ('(' :: (sp.text ++ [')'])) = valueOf env sp.text := by
  by_cases h : sp.IsAscii
  · cases hwhole : sp.isWhole with
    | false => exact (valueOf_real env h hwhole).2
    | true =>
        rcases token?_of_isWhole hwhole h with htoken | htoken
        · obtain ⟨hvalue, hgroup⟩ := valueOf_of_token?_eq_none env h htoken
          rw [hvalue, hgroup]
        · exact (valueOf_integer env h htoken).2
  · obtain ⟨hvalue, hgroup⟩ := valueOf_of_not_isAscii env h
    rw [hvalue, hgroup]

end Spelling

end SignalLab.Expression
