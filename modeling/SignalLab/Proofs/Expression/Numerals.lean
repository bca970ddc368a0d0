import SignalLab.Proofs.Expression.Parsing
import SignalLab.Proofs.Expression.Scanning

/-!
# Numerals — words that begin with a digit

Where a word begins with a digit, the lexer reads a numeral first, and what is left of the word may be
a second one.  A numeral ends only before what no digit begins (`leaves_of_readNumeral?`), so that
there are two tokens at most (`scan_digit`), and as an expression the word is a number or nothing
(`parse?_digit`); it never reads a name.
-/

namespace SignalLab.Expression

open Text

/-! ## What a numeral leaves -/

/-- Whether a token is a number. -/
def Token.isNumber : Token → Bool
  | .integer _ | .real _ | .imaginary => true
  | _ => false

/-- What a reader of numerals leaves: a number, and a rest of the text before which a numeral may
end. -/
structure Leaves (s : Text) (token : Token) (rest : Text) : Prop where
  number : token.isNumber = true
  ends : endsNumeral rest = true
  suffix : rest <:+ s

variable {s rest : Text} {token : Token}

/-- What is left of an end of a text is left of the whole text. -/
theorem Leaves.of_suffix {s' : Text} (h : Leaves s token rest) (hs : s <:+ s') :
    Leaves s' token rest :=
  ⟨h.number, h.ends, h.suffix.trans hs⟩

/-- Digits are taken from the front. -/
theorem suffix_of_takeBaseDigits? {isDigit : Char → Bool} {digits : Text}
    (h : takeBaseDigits? isDigit s = some (digits, rest)) : rest <:+ s := by
  fun_induction takeBaseDigits? isDigit s generalizing digits rest with
  | case1 =>
      cases h
      exact List.suffix_rfl
  | case2 c s hc ih =>
      obtain ⟨⟨ds, rest'⟩, hs, heq⟩ := Option.map_eq_some_iff.mp h
      cases heq
      exact (ih hs).trans ((List.suffix_cons _ _).trans (List.suffix_cons _ _))
  | case3 => cases h
  | case4 c s _ hc ih =>
      obtain ⟨⟨ds, rest'⟩, hs, heq⟩ := Option.map_eq_some_iff.mp h
      cases heq
      exact (ih hs).trans (List.suffix_cons _ _)
  | case5 => cases h
  | case6 =>
      cases h
      exact List.suffix_rfl

/-- So are the digits of a decimal. -/
theorem suffix_of_takeDecimal? {digits : Text} (h : takeDecimal? s = some (digits, rest)) :
    rest <:+ s := by
  rw [takeDecimal?] at h
  split at h
  · exact suffix_of_takeBaseDigits? h
  · cases h

/-- So is an exponent, if there is one. -/
theorem suffix_of_readExponentPart? {e : Option Int} (h : readExponentPart? s = some (e, rest)) :
    rest <:+ s := by
  have hdigits : ∀ {r : Text} {f : Text × Text → Option Int × Text},
      (takeDecimal? r).map f = some (e, rest) → (∀ found, (f found).2 = found.2) → rest <:+ r := by
    intro r f hmap hf
    obtain ⟨⟨ds, rest'⟩, hs, heq⟩ := Option.map_eq_some_iff.mp hmap
    have hrest : (e, rest).2 = rest' := heq ▸ hf (ds, rest')
    rw [← hrest] at hs
    exact suffix_of_takeDecimal? hs
  rw [readExponentPart?.eq_def] at h
  split at h
  · cases h
    exact List.suffix_rfl
  · split at h
    · split at h
      · exact (hdigits h fun _ => rfl).trans ((List.suffix_cons _ _).trans (List.suffix_cons _ _))
      · exact (hdigits h fun _ => rfl).trans ((List.suffix_cons _ _).trans (List.suffix_cons _ _))
      · split at h
        · exact (hdigits h fun _ => rfl).trans (List.suffix_cons _ _)
        · split at h
          · cases h
            exact List.suffix_rfl
          · cases h
    · cases h
      exact List.suffix_rfl

/-- A real leaves what stands behind its digits. -/
theorem leaves_of_finishReal? {whole fraction : Text} {e : Int}
    (h : finishReal? whole fraction e s = some (token, rest)) : Leaves s token rest := by
  rw [finishReal?.eq_def] at h
  split at h
  · split at h
    · rename_i hends
      cases h
      exact ⟨rfl, hends, List.suffix_cons _ _⟩
    · cases h
  · split at h
    · rename_i hends
      cases h
      exact ⟨rfl, hends, List.suffix_cons _ _⟩
    · cases h
  · split at h
    · rename_i hends
      cases h
      exact ⟨rfl, hends, List.suffix_rfl⟩
    · cases h

/-- So does one with a point. -/
theorem leaves_of_readFraction? {whole : Text} (h : readFraction? whole s = some (token, rest)) :
    Leaves s token rest := by
  have hbehind : ∀ {fraction s₁ : Text}, s₁ <:+ s →
      (∃ e s₂, readExponentPart? s₁ = some (e, s₂) ∧
        finishReal? whole fraction (e.getD 0) s₂ = some (token, rest)) → Leaves s token rest := by
    rintro fraction s₁ hs₁ ⟨e, s₂, he, h⟩
    exact (leaves_of_finishReal? h).of_suffix ((suffix_of_readExponentPart? he).trans hs₁)
  rw [readFraction?] at h
  split at h
  all_goals
    simp only [Option.bind_eq_bind, Option.bind_some, Option.bind_eq_some_iff, Prod.exists] at h
  · obtain ⟨fraction, s₁, hfraction, h⟩ := h
    exact hbehind (suffix_of_takeDecimal? hfraction) h
  · exact hbehind List.suffix_rfl h

/-- A decimal numeral is one token and leaves an end of the text. -/
theorem leaves_of_readDecimalNumeral? (h : readDecimalNumeral? s = some (token, rest)) :
    Leaves s token rest := by
  unfold readDecimalNumeral? at h
  simp only [Option.bind_eq_bind, Option.bind_eq_some_iff, Prod.exists] at h
  obtain ⟨whole, s₁, hwhole, h⟩ := h
  have hs₁ := suffix_of_takeDecimal? hwhole
  split at h
  · exact (leaves_of_readFraction? h).of_suffix ((List.suffix_cons _ _).trans hs₁)
  · simp only [Option.bind_eq_some_iff, Prod.exists] at h
    obtain ⟨e, s₂, he, h⟩ := h
    have hs₂ := (suffix_of_readExponentPart? he).trans hs₁
    split at h
    · exact (leaves_of_finishReal? h).of_suffix hs₂
    split at h
    · cases h
    rename_i hends
    split at h
    · split at h
      · exact (leaves_of_finishReal? h).of_suffix hs₂
      · cases h
    split at h
    · cases h
    · cases h
      exact ⟨rfl, by simpa using hends, hs₂⟩

/-- So is an integer of another base. -/
theorem leaves_of_readBaseInteger? {base : Nat} {isDigit : Char → Bool}
    (h : readBaseInteger? base isDigit s = some (token, rest)) : Leaves s token rest := by
  rw [readBaseInteger?.eq_def] at h
  split at h
  · rename_i hdigits
    split at h
    · cases h
    · rename_i hnot
      cases h
      rw [Bool.or_eq_true, not_or, Bool.not_eq_true', Bool.not_eq_false] at hnot
      exact ⟨rfl, hnot.2, suffix_of_takeBaseDigits? hdigits⟩
  · cases h

/-- What is left of a text behind the numeral at its front. -/
theorem leaves_of_readNumeral? (h : readNumeral? s = some (token, rest)) : Leaves s token rest := by
  have hmark : ∀ (c d : Char) (s : Text), s <:+ c :: d :: s :=
    fun c d s => (List.suffix_cons d s).trans (List.suffix_cons c _)
  rw [readNumeral?.eq_def] at h
  split at h
  case h_7 => exact (leaves_of_readFraction? h).of_suffix (List.suffix_cons _ _)
  case h_8 => exact leaves_of_readDecimalNumeral? h
  all_goals exact (leaves_of_readBaseInteger? h).of_suffix (hmark _ _ _)

/-! ## Words that begin with a digit -/

/-- No digit follows a numeral directly. -/
theorem isDigit_of_endsNumeral {c : Char} {s : Text} (hc : isNameLike c = true)
    (h : endsNumeral (c :: s) = true) : c.isDigit = false := by
  have hjoins : ∀ w ∈ ["and", "else", "for", "if", "in", "is", "or", "not"],
      w.toList.head?.any (fun d => !d.isDigit) = true := by
    decide
  rw [endsNumeral, Bool.or_eq_true] at h
  rcases h with h | h
  · obtain ⟨w, hw, hlead⟩ := List.any_eq_true.mp h
    obtain ⟨behind, hbehind⟩ := List.isPrefixOf_iff_prefix.mp hlead
    obtain ⟨d, hd, hdigit⟩ := (Option.any_eq_true _ _).mp (hjoins w hw)
    obtain ⟨word, hword⟩ := List.head?_eq_some_iff.mp hd
    rw [hword, List.cons_append] at hbehind
    rw [← (List.cons.inj hbehind).1, ← Bool.not_eq_true', hdigit]
  · rw [List.head?_cons, Option.any_some, hc] at h
    cases h

/-- A word that begins with a digit is a number, perhaps with a word directly behind it, or no
tokens at all. -/
theorem scan_digit {c : Char} (hc : c.isDigit = true) {word : Text}
    (hword : ∀ d ∈ c :: word, isNameLike d = true) {n : Nat} {tokens : List Token}
    (h : scan (n + 2) 0 (c :: word) = some tokens) :
    ∃ number, number.isNumber = true ∧
      (tokens = [number] ∨ ∃ w token, wordToken? w = some token ∧ tokens = [number, token]) := by
  have hname : isNameLike c = true := hword c List.mem_cons_self
  have hnumeral : beginsNumeral (c :: word) = true := by
    rw [beginsNumeral_cons (ne_of_isNameLike hname (by decide)), hc]
  rw [scan_numeral hnumeral] at h
  simp only [Option.bind_eq_some_iff, Option.map_eq_some_iff, Prod.exists] at h
  obtain ⟨number, rest, hread, others, hothers, heq⟩ := h
  cases heq
  obtain ⟨hnumber, hends, hsuffix⟩ := leaves_of_readNumeral? hread
  refine ⟨number, hnumber, ?_⟩
  -- the word may end with the number, and if it does not the rest of it is one word
  cases rest with
  | nil =>
      rw [scan] at hothers
      cases hothers
      exact .inl rfl
  | cons d rest =>
      have hlike : ∀ e ∈ d :: rest, isNameLike e = true := fun e he => hword e (hsuffix.subset he)
      have hd := isDigit_of_endsNumeral (hlike d List.mem_cons_self) hends
      have hscan := scan_word hd hlike delimited_nil n 0
      rw [List.append_nil] at hscan
      rw [hscan] at hothers
      obtain ⟨token, htoken, hothers⟩ := Option.bind_eq_some_iff.mp hothers
      obtain ⟨behind, hbehind, rfl⟩ := Option.map_eq_some_iff.mp hothers
      cases n with
      | zero => cases hbehind
      | succ n =>
          rw [scan] at hbehind
          cases hbehind
          exact .inr ⟨_, token, htoken, rfl⟩

/-! ## Parsing them -/

/-- There is no operand without tokens. -/
theorem operand_nil (n power : Nat) : operand n power [] = none := by
  cases n with
  | zero => rw [operand]
  | succ n =>
      rw [operand]
      all_goals simp

/-- There is no expression without tokens. -/
theorem expression_nil (n power : Nat) : expression n power [] = none := by
  cases n with
  | zero => rw [expression]
  | succ n =>
      rw [expression_succ, operand_nil]
      rfl

/-- A word is a reserved word or a name. -/
theorem wordToken?_eq_some {w : Text} {token : Token} (h : wordToken? w = some token) :
    (∃ k, token = .keyword k) ∨ ∃ id, token = .name id := by
  rw [wordToken?.eq_def] at h
  split at h
  · exact .inl ⟨_, (Option.some.inj h).symm⟩
  · split at h
    · cases h
    · split at h
      · exact .inr ⟨_, (Option.some.inj h).symm⟩
      · cases h

/-- A word behind an operand joins nothing to it: an operator has no second operand there, and any
other word is left. -/
theorem extend_word {w : Text} {token : Token} (hw : wordToken? w = some token) (n power : Nat)
    (left : Tree) :
    extend (n + 1) power left [token] = none ∨
      extend (n + 1) power left [token] = some (left, [token]) := by
  rcases wordToken?_eq_some hw with ⟨k, rfl⟩ | ⟨id, rfl⟩
  · cases k with
    | kwIf =>
        rw [extend, expression_nil]
        by_cases h : powerExpression < power
        · exact .inr (if_pos h)
        · exact .inl (if_neg h)
    | kwOr =>
        rw [extend, expression_nil]
        by_cases h : powerOr < power
        · exact .inr (if_pos h)
        · exact .inl (if_neg h)
    | kwAnd =>
        rw [extend, expression_nil]
        by_cases h : powerAnd < power
        · exact .inr (if_pos h)
        · exact .inl (if_neg h)
    -- a comparison asks for its second word before it asks for an operand
    | kwIn =>
        have hcompare : afterComparison? [.keyword .kwIn] = some [] := rfl
        rw [extend, hcompare]
        · by_cases h : powerCompare < power
          · exact .inr (if_pos h)
          · left
            simp only [if_neg h, expression_nil]
            rfl
        all_goals simp
    | kwIs =>
        have hcompare : afterComparison? [.keyword .kwIs] = some [] := rfl
        rw [extend, hcompare]
        · by_cases h : powerCompare < power
          · exact .inr (if_pos h)
          · left
            simp only [if_neg h, expression_nil]
            rfl
        all_goals simp
    -- no other word joins operands
    | _ =>
        refine .inr ?_
        rw [extend]
        · rfl
        all_goals simp
  · refine .inr ?_
    rw [extend]
    · rfl
    all_goals simp

/-- A number is an operand, a literal. -/
theorem operand_number {number : Token} (h : number.isNumber = true) (n power : Nat)
    (ts : List Token) :
    ∃ l, operand (n + 1) power (number :: ts) = some (.literal l, ts) := by
  cases number with
  | integer k => exact ⟨_, operand_integer k⟩
  | real x => exact ⟨_, operand_real x⟩
  | imaginary =>
      refine ⟨.notNumeric, ?_⟩
      rw [operand]
  | _ => cases h

/-- A word that begins with a digit is a literal, or no expression. -/
theorem parse?_digit {c : Char} (hc : c.isDigit = true) {word : Text}
    (hword : ∀ d ∈ c :: word, isNameLike d = true) {t : Tree}
    (h : parse? (c :: word) = some t) : ∃ l, t = .literal l := by
  have hblank : (c :: word).head? ≠ some ' ' := by
    intro hhead
    rw [Option.some.inj hhead] at hc
    cases hc
  obtain ⟨n, hn⟩ : ∃ n, 8 * ((c :: word).length + 2) = n + 2 :=
    ⟨8 * ((c :: word).length + 2) - 2, by omega⟩
  unfold parse? at h
  simp only [Option.bind_eq_bind, Option.bind_eq_some_iff, Prod.exists] at h
  obtain ⟨tokens, htokens, t', rest, hexpression, h⟩ := h
  rw [tokens?_eq_scan (fun d hd => .inl (hword d hd)) hblank, List.length_cons] at htokens
  rw [hn] at hexpression
  obtain ⟨number, hnumber, hshape⟩ := scan_digit hc hword htokens
  rcases hshape with rfl | ⟨w, token, hw, rfl⟩
  · obtain ⟨l, hl⟩ := operand_number hnumber n powerExpression []
    rw [expression_succ, hl] at hexpression
    replace hexpression : extend (n + 1) powerExpression (.literal l) [] = _ := hexpression
    rw [extend_nil] at hexpression
    cases hexpression
    exact ⟨l, (Option.some.inj h).symm⟩
  · obtain ⟨l, hl⟩ := operand_number hnumber n powerExpression [token]
    rw [expression_succ, hl, Option.bind_some] at hexpression
    -- the word is left over, and it is no comma
    rcases extend_word hw n powerExpression (.literal l) with hnone | hleft
    · cases hnone.symm.trans hexpression
    · cases hleft.symm.trans hexpression
      rcases wordToken?_eq_some hw with ⟨k, rfl⟩ | ⟨id, rfl⟩ <;> cases h

end SignalLab.Expression
