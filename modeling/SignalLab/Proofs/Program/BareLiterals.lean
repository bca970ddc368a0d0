import SignalLab.Proofs.Expression.LiteralValues
import SignalLab.Proofs.Program.ReadBack

/-!
# Bare literals — the number of a literal as a right-hand side and as arithmetic

A bare literal on a right-hand side is read by the reader of literals; the same text in parentheses,
as a bound of a range or as a size goes through the evaluator of expressions.  The evaluator has fewer
literals: it takes ASCII digits only, and digits alone are an integer there, without zeros in front,
with a finite double, and without a negative zero (`IsNumeralOf`).  On these the two agree, and on no
others, except that a failure may count as the zero that the literal is (`literal_value_iff`).
-/

namespace SignalLab

open Text

namespace Expression

/-- The literal `v` of value `x` is an expression with the same value. -/
structure IsNumeralOf (v : Text) (x : Float) : Prop where
  ascii : ∀ c ∈ v, c.toNat < 0x80
  leading : (∀ c ∈ v, c ∉ ['.', 'e', 'E']) →
    (takeSign v).2.head? = some '0' → ∀ c ∈ (takeSign v).2, c = '0'
  finite : (∀ c ∈ v, c ∉ ['.', 'e', 'E']) → x.isFinite = true ∧ x ≠ -0.0

/-! ## Digits alone -/

theorem integerToken?_eq_none_iff {whole : Text} :
    integerToken? whole = none ↔
      (whole.head? = some '0' ∨ maxIntegerDigits < whole.length) ∧ ∃ c ∈ whole, c ≠ '0' := by
  have hany : whole.any (· != '0') = true ↔ ∃ c ∈ whole, c ≠ '0' := by
    rw [List.any_eq_true]
    exact exists_congr fun c => and_congr_right fun _ => bne_iff_ne
  rw [← hany, integerToken?]
  cases whole.any (· != '0') with
  | false => simp
  | true =>
      simp only [Bool.and_true, decide_eq_true_eq, and_true]
      by_cases hhead : whole.head? = some '0'
      · rw [if_pos hhead]
        exact iff_of_true rfl (.inl hhead)
      · rw [if_neg hhead, or_iff_right hhead]
        split
        · rename_i hlong
          exact iff_of_true rfl hlong
        · rename_i hlong
          exact iff_of_false (fun heq => by cases heq) hlong

/-- Digits without a zero in front write a large number if there are many of them. -/
theorem pow_le_numberInBase {c : Char} (hc : c.isDigit = true) (hzero : c ≠ '0') (digits : Text) :
    10 ^ digits.length ≤ numberInBase 10 (c :: digits) := by
  have hfold : ∀ (digits : Text) (n : Nat),
      n * 10 ^ digits.length ≤ digits.foldl (fun n c => 10 * n + baseDigit c) n := by
    intro digits
    induction digits with
    | nil => exact fun n => Nat.le_of_eq (Nat.mul_one n)
    | cons d digits ih =>
        intro n
        calc n * 10 ^ (d :: digits).length = 10 * n * 10 ^ digits.length := by
              rw [List.length_cons, Nat.pow_succ]
              ring
          _ ≤ (10 * n + baseDigit d) * 10 ^ digits.length :=
              Nat.mul_le_mul_right _ (Nat.le_add_right _ _)
          _ ≤ _ := ih _
  have hpos : 1 ≤ 10 * 0 + baseDigit c := by
    have hbounds := toNat_of_isDigit hc
    have hne : c.toNat ≠ '0'.toNat := fun heq => hzero (Char.toNat_inj.mp heq)
    have hnat : '0'.toNat = 48 := rfl
    rw [baseDigit, if_pos hc]
    omega
  calc 10 ^ digits.length = 1 * 10 ^ digits.length := (Nat.one_mul _).symm
    _ ≤ (10 * 0 + baseDigit c) * 10 ^ digits.length := Nat.mul_le_mul_right _ hpos
    _ ≤ _ := hfold digits _

namespace Spelling

variable {sp : Spelling}

/-- Without its sign a literal begins with a digit or with a point. -/
theorem head?_body (sp : Spelling) {c : Char} (hc : sp.body.head? = some c) :
    isDecimalDigit c = true ∨ c = '.' := by
  cases hwhole : sp.whole with
  | cons d digits =>
      rw [body, hwhole] at hc
      rw [← Option.some.inj hc]
      exact .inl (sp.whole_decimal d (hwhole ▸ List.mem_cons_self))
  | nil =>
      cases hfraction : sp.fraction with
      | none => exact absurd hwhole (whole_ne_nil hfraction)
      | some fraction =>
          rw [body, hwhole, hfraction] at hc
          exact .inr (Option.some.inj hc).symm

theorem takeSign_text (sp : Spelling) :
    takeSign sp.text = (decide (sp.sign = some .minus), sp.body) := by
  cases hsign : sp.sign with
  | some sign =>
      rw [text, hsign]
      cases sign with
      | plus => rfl
      | minus => rfl
  | none =>
      have htext : sp.text = sp.body := by
        rw [text, hsign]
        rfl
      have hhead : ∀ c, isDecimalDigit c = false → c ≠ '.' → ∀ s, sp.body ≠ c :: s := by
        intro c hdigit hpoint s hs
        rcases sp.head?_body (hs ▸ rfl : sp.body.head? = some c) with hc | hc
        · rw [hdigit] at hc
          cases hc
        · exact hpoint hc
      rw [htext, takeSign]
      · rfl
      · exact hhead '+' (by decide) (by decide)
      · exact hhead '-' (by decide) (by decide)

theorem isWhole_iff : sp.isWhole = true ↔ ∀ c ∈ sp.text, c ∉ ['.', 'e', 'E'] := by
  constructor
  · intro hwhole c hc hmark
    -- neither a sign nor a digit is one of the marks
    have hplain : isDecimalDigit c = false ∧ ∀ sign : Sign, c ≠ sign.char := by
      simp only [List.mem_cons, List.not_mem_nil, or_false] at hmark
      rcases hmark with rfl | rfl | rfl <;> exact ⟨by decide, by rintro (_ | _) <;> decide⟩
    rw [text, body_of_isWhole hwhole] at hc
    rcases List.mem_append.mp hc with hc | hc
    · cases hsign : sp.sign with
      | none =>
          rw [hsign] at hc
          cases hc
      | some sign =>
          rw [hsign] at hc
          exact hplain.2 sign (List.mem_singleton.mp hc)
    · rw [sp.whole_decimal c hc] at hplain
      cases hplain.1
  · intro h
    rw [isWhole, Bool.and_eq_true, Option.isNone_iff_eq_none, Option.isNone_iff_eq_none]
    constructor
    · cases hfraction : sp.fraction with
      | none => rfl
      | some fraction =>
          have hpoint : '.' ∈ sp.text := by
            rw [text, body, hfraction]
            simp [fractionText]
          exact absurd (by decide) (h '.' hpoint)
    · cases hexponent : sp.exponent with
      | none => rfl
      | some e =>
          have hmark : e.mark ∈ sp.text := by
            rw [text, body, hexponent]
            simp [exponentText, Exponent.text]
          refine absurd ?_ (h e.mark hmark)
          rcases e.mark_eq with heq | heq <;> (rw [heq]; decide)

/-- More digits than an integer may have, without a zero in front, are far beyond the doubles. -/
theorem isFinite_value_of_long (h : sp.IsAscii) (hwhole : sp.isWhole = true)
    (hhead : sp.whole.head? ≠ some '0') (hlong : maxIntegerDigits < sp.whole.length) :
    sp.value.isFinite = false := by
  have hcoefficient := coefficient_of_isWhole hwhole h
  have hdigits := h.whole
  cases hsplit : sp.whole with
  | nil =>
      rw [hsplit] at hlong
      cases hlong
  | cons c digits =>
      rw [hsplit] at hhead hlong hcoefficient hdigits
      have hzero : c ≠ '0' := fun heq => hhead (congrArg some heq)
      have hlower := pow_le_numberInBase (hdigits c List.mem_cons_self) hzero digits
      rw [hcoefficient] at hlower
      have hmax : maxIntegerDigits = 4300 := rfl
      rw [List.length_cons] at hlong
      have hcount : digits.length < Decimal.digitCount sp.coefficient :=
        (Double.lt_digitCount_iff (by omega)).mpr hlower
      have hinfinite := Double.infinityBits_le_of_digits (n := sp.coefficient) (by omega)
      rw [value_of_isWhole hwhole]
      exact Bool.eq_false_iff.mpr fun hfinite =>
        Nat.not_le.mpr ((Double.isFinite_ofDecimal_iff _).mp hfinite) hinfinite

/-- A literal in ASCII with a point or an exponent is a numeral. -/
theorem isNumeralOf_of_real (h : sp.IsAscii) (hwhole : sp.isWhole = false) :
    IsNumeralOf sp.text sp.value := by
  have hnot : ¬ ∀ c ∈ sp.text, c ∉ ['.', 'e', 'E'] := fun hall => by
    rw [isWhole_iff.mpr hall] at hwhole
    cases hwhole
  exact ⟨isAscii_iff.mp h, fun hall => absurd hall hnot, fun hall => absurd hall hnot⟩

/-- Digits alone that have a token have no zeros in front of others. -/
theorem forall_eq_zero_of_token? (hwhole : sp.isWhole = true) {token : Token}
    (hsome : sp.token? = some token) (hhead : sp.whole.head? = some '0') :
    ∀ c ∈ sp.whole, c = '0' := by
  intro c hc
  by_contra hne
  have hnone := integerToken?_eq_none_iff.mpr ⟨.inl hhead, c, hc, hne⟩
  rw [token?, hwhole, if_pos rfl, hnone] at hsome
  cases hsome

section Digits

variable (h : sp.IsAscii) (hwhole : sp.isWhole = true)
include h hwhole

/-- Digits alone are a numeral if there are no zeros in front and the value is that of an integer. -/
theorem isNumeralOf_digits_iff : IsNumeralOf sp.text sp.value ↔
    (sp.whole.head? = some '0' → ∀ c ∈ sp.whole, c = '0') ∧
      sp.value.isFinite = true ∧ sp.value ≠ -0.0 := by
  have hdigits := isWhole_iff.mp hwhole
  have hbehind : (takeSign sp.text).2 = sp.whole := by
    rw [takeSign_text, body_of_isWhole hwhole]
  constructor
  · intro hnumeral
    have hleading := hnumeral.leading hdigits
    rw [hbehind] at hleading
    exact ⟨hleading, hnumeral.finite hdigits⟩
  · rintro ⟨hleading, hfinite⟩
    exact ⟨isAscii_iff.mp h, fun _ => hbehind ▸ hleading, fun _ => hfinite⟩

/-- Digits that have no token have zeros in front, or they are too many for a finite value. -/
theorem not_isNumeralOf_of_token?_eq_none (hnone : sp.token? = none) :
    ¬ IsNumeralOf sp.text sp.value := by
  rw [isNumeralOf_digits_iff h hwhole]
  rintro ⟨hleading, hfinite, -⟩
  rw [token?, hwhole, if_pos rfl, integerToken?_eq_none_iff] at hnone
  obtain ⟨hrefused, c, hc, hne⟩ := hnone
  have hhead : sp.whole.head? ≠ some '0' := fun hhead => hne (hleading hhead c hc)
  have hinfinite := isFinite_value_of_long h hwhole hhead (hrefused.resolve_left hhead)
  rw [hfinite] at hinfinite
  cases hinfinite

/-- What the evaluator makes of digits alone. -/
theorem valueOf_digits_cases (env : Environment) :
    IsNumeralOf sp.text sp.value ∧ valueOf env sp.text = .ok sp.value ∨
      ¬ IsNumeralOf sp.text sp.value ∧ ((∃ cause, valueOf env sp.text = .error cause) ∨
        sp.value = -0.0 ∧ valueOf env sp.text = .ok 0.0) := by
  rcases token?_of_isWhole hwhole h with hnone | hsome
  · exact .inr ⟨not_isNumeralOf_of_token?_eq_none h hwhole hnone,
      .inl ⟨_, (valueOf_of_token?_eq_none env h hnone).1⟩⟩
  have hvalue := (valueOf_integer env h hsome).1
  have hdouble := value_of_isWhole hwhole
  rw [isNumeralOf_digits_iff h hwhole]
  by_cases hfinite : sp.value.isFinite = true
  · by_cases hzero : sp.value = -0.0
    · refine .inr ⟨fun hnumeral => hnumeral.2.2 hzero, .inr ⟨hzero, ?_⟩⟩
      rw [hdouble] at hzero
      rw [hvalue, signedNumber, Double.ofInt_signedInteger_of_zero _ hzero]
      rfl
    · refine .inl ⟨⟨forall_eq_zero_of_token? hwhole hsome, hfinite, hzero⟩, ?_⟩
      rw [hdouble] at hfinite hzero ⊢
      rw [hvalue, signedNumber, Double.ofInt_signedInteger _ hfinite hzero]
      rfl
  · refine .inr ⟨fun hnumeral => hfinite hnumeral.2.1, .inl ⟨.arithmetic .integerRange, ?_⟩⟩
    rw [hdouble, Bool.not_eq_true] at hfinite
    rw [hvalue, signedNumber, Double.ofInt_signedInteger_of_infinite _ hfinite]
    rfl

end Digits

/-- What the evaluator makes of a literal. -/
theorem valueOf_cases (sp : Spelling) (env : Environment) :
    IsNumeralOf sp.text sp.value ∧ valueOf env sp.text = .ok sp.value ∨
      ¬ IsNumeralOf sp.text sp.value ∧ ((∃ cause, valueOf env sp.text = .error cause) ∨
        sp.value = -0.0 ∧ valueOf env sp.text = .ok 0.0) := by
  by_cases h : sp.IsAscii
  · cases hwhole : sp.isWhole with
    | false => exact .inl ⟨isNumeralOf_of_real h hwhole, (valueOf_real env h hwhole).1⟩
    | true => exact valueOf_digits_cases h hwhole env
  · exact .inr ⟨fun hnumeral => h (isAscii_iff.mpr hnumeral.ascii),
      .inl ⟨_, (valueOf_of_not_isAscii env h).1⟩⟩

end Spelling

/-- The evaluator gives a literal its value exactly if it is a numeral, or zero where failures count
as zero. -/
theorem evaluate_literal_iff {v : Text} {x : Float} (h : readLiteral? v = some x)
    (policy : FallbackPolicy) (env : Environment) :
    evaluate policy env v = .ok x ↔ IsNumeralOf v x ∨ policy = .zero ∧ x = 0.0 := by
  obtain ⟨sp, rfl, rfl⟩ := exists_spelling h
  rcases sp.valueOf_cases env with ⟨hnumeral, hvalue⟩ | ⟨hnumeral, ⟨cause, hvalue⟩ | ⟨hzero, hvalue⟩⟩
  · rw [evaluate.eq_def, evalText, hvalue]
    exact iff_of_true rfl (.inl hnumeral)
  · rw [evaluate.eq_def, evalText, hvalue, or_iff_right hnumeral]
    cases policy with
    | zero =>
        refine ⟨fun heq => ⟨rfl, (Except.ok.inj heq).symm⟩, fun heq => ?_⟩
        rw [heq.2]
        rfl
    | raise => exact iff_of_false (fun heq => by cases heq) fun heq => by cases heq.1
  · -- a negative zero is neither what the evaluator gives nor what a failure counts as
    have hne : (0.0 : Float) ≠ -0.0 := by decide +kernel
    rw [evaluate.eq_def, evalText, hvalue, hzero, or_iff_right (hzero ▸ hnumeral)]
    exact iff_of_false (fun heq => hne (Except.ok.inj heq)) fun heq => hne heq.2.symm

end Expression

namespace Shape

open Expression

/-- A literal on a right-hand side is the double it writes, in every store.  The evaluator gives the
same text this value exactly if it is a numeral, or zero where failures count as zero; so does a bound
of a range or a size, and parentheses change nothing. -/
theorem literal_value_iff {v : Text} {x : Float} (h : readLiteral? v = some x) (s : Settings)
    (draw : Nat → Float) (used : Nat) (store : Store) :
    evaluateExpression s draw used store v = .ok ⟨.scalar x, 0⟩ ∧
    (number s store v = .ok x ↔ IsNumeralOf v x ∨ s.fallback = .zero ∧ x = 0.0) ∧
    ∀ env, (∀ policy, evaluate policy env v = .ok x ↔
        IsNumeralOf v x ∨ policy = .zero ∧ x = 0.0) ∧
      valueOf env ('(' :: (v ++ [')'])) = valueOf env v := by
  refine ⟨Statement.evaluateExpression_literal h s draw used store, ?_, fun env => ⟨?_, ?_⟩⟩
  · rw [number, Fallible.mapError_ok_iff]
    exact evaluate_literal_iff h s.fallback store.scalars
  · exact fun policy => evaluate_literal_iff h policy env
  · obtain ⟨sp, rfl, -⟩ := exists_spelling h
    exact sp.valueOf_group env

/-- A number with a sign, a point and an exponent. -/
theorem literal_value_of_exponent :
    readLiteral? "-1.50e+3" = some (-1500.0) ∧ IsNumeralOf "-1.50e+3" (-1500.0) ∧
      evaluate .raise [] "-1.50e+3" = .ok (-1500.0) := by
  have hread : readLiteral? "-1.50e+3" = some (-1500.0) := by decide +kernel
  have hascii : ("-1.50e+3" : Text).all (fun c => decide (c.toNat < 0x80)) = true := by decide
  have hnumeral : IsNumeralOf "-1.50e+3" (-1500.0) :=
    ⟨fun c hc => of_decide_eq_true (List.all_eq_true.mp hascii c hc),
      fun hall => absurd (by decide) (hall '.' (by decide)),
      fun hall => absurd (by decide) (hall '.' (by decide))⟩
  obtain ⟨-, -, hvalue⟩ :=
    literal_value_iff hread Settings.standard (fun _ => 0.0) 0 Store.empty
  exact ⟨hread, hnumeral, ((hvalue []).1 .raise).mpr (.inl hnumeral)⟩

/-- A zero in front makes a literal no expression, and the failure counts as zero. -/
theorem literal_value_of_leading_zeros :
    readLiteral? "007" = some 7.0 ∧
      evaluateExpression Settings.standard (fun _ => 0.0) 0 Store.empty "007" =
        .ok ⟨.scalar 7.0, 0⟩ ∧
      evaluate .zero [] "007" = .ok 0.0 ∧ evaluate .zero [] "(007)" = .ok 0.0 ∧
      (evaluate .raise [] "007").isOk = false ∧ (0.0 : Float) ≠ 7.0 := by
  have hread : readLiteral? "007" = some 7.0 := by decide +kernel
  exact ⟨hread, Statement.evaluateExpression_literal hread _ _ _ _,
    Fallible.ok_of_toOption (by decide +kernel), Fallible.ok_of_toOption (by decide +kernel),
    by decide +kernel, by decide +kernel⟩

end Shape

end SignalLab
