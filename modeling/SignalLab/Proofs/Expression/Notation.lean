import SignalLab.Proofs.Expression.Formula
import SignalLab.Proofs.Expression.Parsing
import SignalLab.Proofs.Expression.Scanning
import SignalLab.Proofs.Text.Calls
import SignalLab.Proofs.Text.Names
import SignalLab.Proofs.Text.Substitution
import SignalLab.Proofs.Text.Trimming

/-!
# Notation — a formula is read as it is written

The text of a formula is followed through the stages of its reading.  The rewriting of the operators
changes their spelling and nothing else (`plainOperators_write`), since numbers and names have no
character of an operator in them.  The scanner then finds the tokens of the formula (`scans`), and
the parser its tree (`expression_tokens`), whatever stands behind the formula, because every
operation is in parentheses.  A formula therefore has the value that the operations give it.
-/

namespace SignalLab.Expression

open Text

/-! ## Characters -/

/-- Identifiers are in ASCII. -/
theorem toNat_lt_of_isIdentifierChar {c : Char} (hc : isIdentifierChar c = true) :
    c.toNat < 0x80 := by
  rw [isIdentifierChar, Bool.or_eq_true] at hc
  rcases hc with hc | hc
  · exact toNat_lt_of_isAsciiNameStart hc
  · have hbounds := toNat_of_isDigit hc
    omega

/-- A character of identifiers is one of words. -/
theorem isWordChar_of_isIdentifierChar {c : Char} (hc : isIdentifierChar c = true) :
    isWordChar c = true := by
  rw [isIdentifierChar, Bool.or_eq_true] at hc
  exact hc.elim isWordChar_of_isAsciiNameStart isWordChar_of_isDigit

/-- Numbers are written in characters of identifiers. -/
theorem isIdentifierChar_of_mem_ofNat {n : Nat} {c : Char} (hc : c ∈ Text.ofNat n) :
    isIdentifierChar c = true := by
  rw [isIdentifierChar, isDigit_of_mem_ofNat hc, Bool.or_true]

theorem Identifier.isIdentifierChar_of_mem (id : Identifier) {c : Char} (hc : c ∈ id.text) :
    isIdentifierChar c = true := by
  rcases List.mem_cons.mp hc with rfl | hc
  · rw [isIdentifierChar, id.first_start, Bool.true_or]
  · exact List.all_eq_true.mp id.others_chars c hc

/-- An identifier consists of characters of names. -/
theorem Identifier.isNameLike_of_mem (id : Identifier) {c : Char} (hc : c ∈ id.text) :
    isNameLike c = true :=
  isNameLike_of_isWordChar (isWordChar_of_isIdentifierChar (id.isIdentifierChar_of_mem hc))

/-! ## Single tokens -/

/-- Before such a text an operator is complete. -/
def BeginsOperand (rest : Text) : Prop :=
  ∀ c, rest.head? = some c → c ≠ '*' ∧ c ≠ '/' ∧ c ≠ '>'

/-- A name is read as it is written. -/
theorem Identifier.wordToken?_text (id : Identifier) :
    wordToken? id.text = some (.name id.text) := by
  have hascii : ∀ c ∈ id.text, c.toNat < 0x80 :=
    fun c hc => toNat_lt_of_isIdentifierChar (id.isIdentifierChar_of_mem hc)
  have hstart : isNameStart id.first = true := isNameStart_of_isAsciiNameStart id.first_start
  have hothers : id.others.all isNameContinue = true := by
    rw [List.all_eq_true]
    intro c hc
    rw [isNameContinue, if_pos (hascii _ (List.mem_cons_of_mem _ hc))]
    exact id.isIdentifierChar_of_mem (List.mem_cons_of_mem _ hc)
  have hspelling : normalizeName id.text = id.text := by
    rw [normalizeName, if_pos (List.all_eq_true.mpr fun c hc => decide_eq_true (hascii c hc))]
  rw [wordToken?.eq_def, text, id.not_reserved]
  show (if isNameStart id.first && id.others.all isNameContinue then
    some (Token.name (normalizeName id.text)) else none) = _
  rw [hstart, hothers, Bool.and_self, if_pos rfl, hspelling]
  rfl

/-- An identifier is scanned as one name. -/
theorem Scans.identifier (id : Identifier) {rest : Text} (hrest : Delimited rest) (depth : Nat) :
    Scans depth (id.text ++ rest) [.name id.text] depth rest := by
  exact .word (isDigit_of_isAsciiNameStart id.first_start)
    (fun d hd => id.isNameLike_of_mem hd)
    id.wordToken?_text hrest depth

/-- A sign is scanned as a symbol, if an operand begins behind it. -/
theorem Scans.sign (sign : Sign) {rest : Text} (hrest : BeginsOperand rest) (depth : Nat) :
    Scans depth (sign.char :: rest) [.symbol sign.symbol] depth rest := by
  cases sign with
  | plus => exact .operator (by decide) (by decide) rfl (Nat.le_refl _) rfl rfl depth
  | minus =>
      have hsymbol : symbol? ('-' :: rest) = some (.minus, rest) := by
        rw [symbol?]
        rintro s rfl
        exact (hrest '>' rfl).2.2 rfl
      exact .operator (by decide) (by decide) hsymbol (Nat.le_refl _) rfl rfl depth

/-- So is an operator. -/
theorem Scans.plain (o : Operator) {rest : Text} (hrest : BeginsOperand rest) (depth : Nat) :
    Scans depth (o.plain ++ rest) [.symbol o.symbol] depth rest := by
  have hstar : symbol? ('*' :: rest) = some (.star, rest) := by
    rw [symbol?]
    rintro s rfl
    exact (hrest '*' rfl).1 rfl
  have hslash : symbol? ('/' :: rest) = some (.slash, rest) := by
    rw [symbol?]
    rintro s rfl
    exact (hrest '/' rfl).2.1 rfl
  cases o with
  | plus => exact .sign .plus hrest depth
  | minus => exact .sign .minus hrest depth
  | times | eachTimes =>
    exact .operator (by decide) (by decide) hstar (Nat.le_refl _) rfl rfl depth
  | divide | eachDivide =>
    exact .operator (by decide) (by decide) hslash (Nat.le_refl _) rfl rfl depth
  | power | eachPower =>
    exact .operator (by decide) (by decide) rfl (Nat.le_succ _) rfl rfl depth

/-! ## The rewriting of operators -/

/-- A text without points and carets stays. -/
theorem plainOperators_append {front : Text} (hdot : '.' ∉ front) (hpower : '^' ∉ front)
    (rest : Text) : plainOperators (front ++ rest) = front ++ plainOperators rest := by
  rw [plainOperators, substitutePair_append_of_not_mem hdot, substitutePair_append_of_not_mem hdot,
    substitutePair_append_of_not_mem hdot, substitute_append, substitute_of_not_mem hpower]
  rfl

/-- Numbers and names stay as they are. -/
theorem plainOperators_identifierChars {front : Text}
    (hfront : ∀ c ∈ front, isIdentifierChar c = true) (rest : Text) :
    plainOperators (front ++ rest) = front ++ plainOperators rest :=
  plainOperators_append (fun h => by cases hfront _ h) (fun h => by cases hfront _ h) rest

/-- So does a single character. -/
theorem plainOperators_cons {c : Char} (hdot : c ≠ '.') (hpower : c ≠ '^') (rest : Text) :
    plainOperators (c :: rest) = c :: plainOperators rest := by
  have hnot : ∀ d, c ≠ d → d ∉ [c] := fun d hne h => hne (List.mem_singleton.mp h).symm
  exact plainOperators_append (hnot _ hdot) (hnot _ hpower) rest

/-- An operator is rewritten to the one that is read in its place. -/
theorem plainOperators_written (o : Operator) (rest : Text) :
    plainOperators (o.written ++ rest) = o.plain ++ plainOperators rest := by
  cases o with
  | plus => exact plainOperators_append (by decide) (by decide) rest
  | minus => exact plainOperators_append (by decide) (by decide) rest
  | times => exact plainOperators_append (by decide) (by decide) rest
  | divide => exact plainOperators_append (by decide) (by decide) rest
  | power =>
      show plainOperators ('^' :: rest) = _
      rw [plainOperators, substitutePair_cons_of_ne (by decide),
        substitutePair_cons_of_ne (by decide), substitutePair_cons_of_ne (by decide)]
      rfl
  | eachTimes =>
      show plainOperators ('.' :: '*' :: rest) = _
      rw [plainOperators, substitutePair_cons_cons_of_ne (by decide),
        substitutePair_cons_of_ne (c := '*') (by decide), substitutePair_cons_of_pair,
        substitutePair_cons_of_ne (by decide)]
      rfl
  | eachDivide =>
      show plainOperators ('.' :: '/' :: rest) = _
      rw [plainOperators, substitutePair_cons_cons_of_ne (by decide),
        substitutePair_cons_of_ne (c := '/') (by decide),
        substitutePair_cons_cons_of_ne (by decide),
        substitutePair_cons_of_ne (c := '/') (by decide), substitutePair_cons_of_pair]
      rfl
  | eachPower =>
      show plainOperators ('.' :: '^' :: rest) = _
      rw [plainOperators, substitutePair_cons_of_pair, substitutePair_cons_of_ne (by decide),
        substitutePair_cons_of_ne (by decide)]
      rfl

namespace Formula

/-- So do blanks. -/
theorem plainOperators_blanks (gap : Nat) (rest : Text) :
    plainOperators (blanks gap ++ rest) = blanks gap ++ plainOperators rest := by
  have hblank : ∀ c ∈ blanks gap, c = ' ' := fun c hc => List.eq_of_mem_replicate hc
  exact plainOperators_append (fun h => absurd (hblank _ h) (by decide))
    (fun h => absurd (hblank _ h) (by decide)) rest

/-- So do the commas between arguments. -/
theorem plainOperators_separator (gap : Nat) (behind : List Formula) (rest : Text) :
    plainOperators (separator gap behind ++ rest) =
      separator gap behind ++ plainOperators rest := by
  cases behind with
  | nil => rfl
  | cons e es =>
      show plainOperators (',' :: (blanks gap ++ rest)) = ',' :: (blanks gap ++ _)
      rw [plainOperators_cons (by decide) (by decide), plainOperators_blanks]

mutual

/-- The text of a formula in a program is rewritten to the one with the plain operators. -/
theorem plainOperators_write (gap : Nat) (e : Formula) (rest : Text) :
    plainOperators (e.write Operator.written gap ++ rest) =
      e.write Operator.plain gap ++ plainOperators rest := by
  cases e with
  | number n =>
      rw [write, write]
      exact plainOperators_identifierChars (fun c hc => isIdentifierChar_of_mem_ofNat hc) rest
  | name id =>
      rw [write, write]
      exact plainOperators_identifierChars (fun c hc => id.isIdentifierChar_of_mem hc) rest
  | signed sign e =>
      have hsign : sign.char ≠ '.' ∧ sign.char ≠ '^' := by cases sign <;> decide
      simp only [write, List.cons_append, List.append_assoc, List.nil_append]
      rw [plainOperators_cons (by decide) (by decide), plainOperators_cons hsign.1 hsign.2,
        plainOperators_write gap e, plainOperators_cons (by decide) (by decide)]
  | operation o l r =>
      simp only [write, List.cons_append, List.append_assoc, List.nil_append]
      rw [plainOperators_cons (by decide) (by decide), plainOperators_write gap l,
        plainOperators_blanks, plainOperators_written, plainOperators_blanks,
        plainOperators_write gap r, plainOperators_cons (by decide) (by decide)]
  | call f args =>
      simp only [write, List.cons_append, List.append_assoc, List.nil_append]
      rw [plainOperators_identifierChars fun c hc => f.isIdentifierChar_of_mem hc,
        plainOperators_cons (by decide) (by decide), plainOperators_writeArguments gap args,
        plainOperators_cons (by decide) (by decide)]

/-- In arguments the operators become plain ones. -/
theorem plainOperators_writeArguments (gap : Nat) (es : List Formula) (rest : Text) :
    plainOperators (writeArguments Operator.written gap es ++ rest) =
      writeArguments Operator.plain gap es ++ plainOperators rest := by
  cases es with
  | nil => rw [writeArguments, writeArguments, List.nil_append, List.nil_append]
  | cons e es =>
      simp only [writeArguments, List.append_assoc]
      rw [plainOperators_write gap e, plainOperators_separator,
        plainOperators_writeArguments gap es]

end

/-! ## First and last characters -/

/-- A formula begins with a number, a name or a parenthesis. -/
theorem exists_write_eq_cons (spelling : Operator → Text) (gap : Nat) (e : Formula) :
    ∃ c s, e.write spelling gap = c :: s ∧ (isIdentifierChar c = true ∨ c = '(') := by
  cases e with
  | number n =>
      obtain ⟨c, digits, hdigits, hc⟩ := exists_ofNat_eq_cons n.value
      refine ⟨c, digits, by rw [write, hdigits], .inl ?_⟩
      rw [isIdentifierChar, hc, Bool.or_true]
  | name id =>
      exact ⟨id.first, id.others, by rw [write, Identifier.text],
        .inl (id.isIdentifierChar_of_mem List.mem_cons_self)⟩
  | signed sign e => exact ⟨'(', _, by rw [write], .inr rfl⟩
  | operation o l r => exact ⟨'(', _, by rw [write], .inr rfl⟩
  | call f args =>
      exact ⟨f.first, _, by rw [write, Identifier.text, List.cons_append],
        .inl (f.isIdentifierChar_of_mem List.mem_cons_self)⟩

/-- A formula ends with a number, a name or a parenthesis. -/
theorem of_getLast?_write {spelling : Operator → Text} {gap : Nat} {e : Formula} {c : Char}
    (hc : (e.write spelling gap).getLast? = some c) : isIdentifierChar c = true ∨ c = ')' := by
  cases e with
  | number n =>
      rw [write] at hc
      exact .inl (isIdentifierChar_of_mem_ofNat (List.mem_of_getLast? hc))
  | name id =>
      rw [write] at hc
      exact .inl (id.isIdentifierChar_of_mem (List.mem_of_getLast? hc))
  | signed sign e =>
      rw [write, ← List.cons_append, ← List.cons_append, List.getLast?_concat] at hc
      exact .inr (Option.some.inj hc).symm
  | operation o l r =>
      simp only [write, ← List.cons_append, ← List.append_assoc] at hc
      rw [List.getLast?_concat] at hc
      exact .inr (Option.some.inj hc).symm
  | call f args =>
      rw [write, ← List.cons_append, ← List.append_assoc, List.getLast?_concat] at hc
      exact .inr (Option.some.inj hc).symm

/-- No blanks stand around a formula. -/
theorem trim_text (gap : Nat) (e : Formula) : trim (e.text gap) = e.text gap := by
  refine trim_eq_self (fun c hc => ?_) (fun c hc => ?_)
  · obtain ⟨d, s, hs, hd⟩ := e.exists_write_eq_cons Operator.written gap
    rw [text, hs] at hc
    rw [← Option.some.inj hc]
    rcases hd with hd | rfl
    · exact isBlank_of_isWordChar (isWordChar_of_isIdentifierChar hd)
    · decide
  · rcases of_getLast?_write hc with hc | rfl
    · exact isBlank_of_isWordChar (isWordChar_of_isIdentifierChar hc)
    · decide

/-! ## Tokens -/

/-- Blanks delimit, or what stands behind them does. -/
theorem delimited_blanks (gap : Nat) {rest : Text} (hrest : Delimited rest) :
    Delimited (blanks gap ++ rest) := by
  cases gap with
  | zero => exact hrest
  | succ gap => exact delimited_cons (by decide) _

/-- An operator delimits what stands in front of it. -/
theorem delimited_plain (o : Operator) (rest : Text) : Delimited (o.plain ++ rest) := by
  cases o <;> exact delimited_cons (by decide) _

/-- So does a comma, or the end of the arguments. -/
theorem delimited_separator (gap : Nat) (behind : List Formula) {rest : Text}
    (hrest : Delimited rest) :
    Delimited (separator gap behind ++ (writeArguments Operator.plain gap behind ++ rest)) := by
  cases behind with
  | nil => 
    rw [writeArguments]
    exact hrest
  | cons e es => exact delimited_cons (by decide) _

/-- A formula begins an operand. -/
theorem beginsOperand_write (gap : Nat) (e : Formula) (rest : Text) :
    BeginsOperand (e.write Operator.plain gap ++ rest) := by
  obtain ⟨d, s, hs, hd⟩ := e.exists_write_eq_cons Operator.plain gap
  intro c hc
  rw [hs, List.cons_append] at hc
  rw [← Option.some.inj hc]
  rcases hd with hd | rfl
  · refine ⟨?_, ?_, ?_⟩ <;> (rintro rfl; cases hd)
  · decide

/-- An operand may begin behind blanks. -/
theorem beginsOperand_blanks (gap : Nat) {rest : Text} (hrest : BeginsOperand rest) :
    BeginsOperand (blanks gap ++ rest) := by
  cases gap with
  | zero => exact hrest
  | succ gap =>
      intro c hc
      rw [← Option.some.inj hc]
      decide

/-- A separator is scanned as a comma, if there is one. -/
theorem scans_separator (gap : Nat) (behind : List Formula) (rest : Text) (depth : Nat) :
    Scans depth (separator gap behind ++ rest) (separatorTokens behind) depth rest := by
  cases behind with
  | nil => exact .refl depth rest
  | cons e es =>
      have hcomma : Scans depth (',' :: (blanks gap ++ rest)) [.symbol .comma] depth _ :=
        .operator (by decide) (by decide) rfl (Nat.le_refl _) rfl rfl depth
      exact hcomma.trans (.gaps depth gap rest)

mutual

/-- The scanner finds the tokens of a formula, whatever delimiter stands behind it. -/
theorem scans (gap : Nat) (e : Formula) (depth : Nat) (hdepth : depth + e.nesting ≤ maxBracketDepth)
    {rest : Text} (hrest : Delimited rest) :
    Scans depth (e.write Operator.plain gap ++ rest) e.tokens depth rest := by
  cases e with
  | number n =>
      rw [write, tokens]
      exact .number n.length_le hrest depth
  | name id =>
      rw [write, tokens]
      exact .identifier id hrest depth
  | signed sign e =>
      rw [nesting] at hdepth
      simp only [write, tokens, List.cons_append, List.append_assoc, List.nil_append]
      have hsign := Scans.sign sign (beginsOperand_write gap e (')' :: rest)) (depth + 1)
      have he := scans gap e (depth + 1) (by omega) (delimited_cons (c := ')') (by decide) rest)
      exact (Scans.opening (by omega) _).trans (hsign.trans (he.trans (.closing depth rest)))
  | operation o l r =>
      rw [nesting] at hdepth
      simp only [write, tokens, List.cons_append, List.append_assoc, List.nil_append]
      -- from the last piece to the first, since what follows a piece decides where it ends
      have hclose : Delimited (')' :: rest) := delimited_cons (by decide) rest
      have hr := scans gap r (depth + 1) (by omega) hclose
      have hplain := Scans.plain o
        (beginsOperand_blanks gap (beginsOperand_write gap r (')' :: rest))) (depth + 1)
      have hl := scans gap l (depth + 1) (by omega)
        (delimited_blanks gap (delimited_plain o (blanks gap ++
          (r.write Operator.plain gap ++ ')' :: rest))))
      exact (Scans.opening (by omega) _).trans (hl.trans ((Scans.gaps _ gap _).trans
        (hplain.trans ((Scans.gaps _ gap _).trans (hr.trans (.closing depth rest))))))
  | call f args =>
      rw [nesting] at hdepth
      simp only [write, tokens, List.cons_append, List.append_assoc, List.nil_append]
      have hname := Scans.identifier f (delimited_cons (c := '(') (by decide)
        (writeArguments Operator.plain gap args ++ ')' :: rest)) depth
      have hargs := scans_arguments gap args (depth + 1) (by omega)
        (delimited_cons (c := ')') (by decide) rest)
      exact hname.trans ((Scans.opening (by omega) _).trans (hargs.trans (.closing depth rest)))

/-- Arguments are scanned one after the other. -/
theorem scans_arguments (gap : Nat) (es : List Formula) (depth : Nat)
    (hdepth : depth + nestingOfArguments es ≤ maxBracketDepth) {rest : Text}
    (hrest : Delimited rest) :
    Scans depth (writeArguments Operator.plain gap es ++ rest) (argumentTokens es) depth rest := by
  cases es with
  | nil =>
      rw [writeArguments, argumentTokens]
      exact .refl depth rest
  | cons e es =>
      rw [nestingOfArguments] at hdepth
      simp only [writeArguments, argumentTokens, List.append_assoc]
      have he := scans gap e depth (by omega) (delimited_separator gap es hrest)
      have hes := scans_arguments gap es depth (by omega) hrest
      exact he.trans ((scans_separator gap es _ depth).trans hes)

end

/-! ## Trees -/

/-- A formula is neither a named argument nor an assignment. -/
theorem beginsArithmetic_tokens (e : Formula) {s : Symbol} (hwalrus : s ≠ .walrus)
    (hassign : s ≠ .assign) (rest : List Token) :
    beginsArithmetic (e.tokens ++ .symbol s :: rest) = true := by
  cases e with
  | number n =>
      rw [tokens]
      rfl
  | name id =>
      rw [tokens]
      show (s != .walrus && s != .assign) = true
      rw [bne_iff_ne.mpr hwalrus, bne_iff_ne.mpr hassign]
      rfl
  | signed sign e =>
      rw [tokens]
      rfl
  | operation o l r =>
      rw [tokens]
      rfl
  | call f args =>
      rw [tokens]
      rfl

/-- The symbol of a sign is a unary operator. -/
theorem unary?_symbol (sign : Sign) : unary? sign.symbol = some sign.op := by
  cases sign <;> rfl

/-- The symbol of an operator is a binary one. -/
theorem exists_binary?_symbol (o : Operator) :
    ∃ strength inner, binary? o.symbol = some (o.op, strength, inner) := by
  cases o <;> exact ⟨_, _, rfl⟩

/-- Behind an argument stands a comma or the closing parenthesis. -/
theorem exists_stop_of_arguments (es : List Formula) (rest : List Token) :
    ∃ s behind, (s = .closeParen ∨ s = .comma) ∧
      separatorTokens es ++ (argumentTokens es ++ .symbol .closeParen :: rest) =
        .symbol s :: behind := by
  cases es with
  | nil => exact ⟨.closeParen, rest, .inl rfl, by rw [argumentTokens]; rfl⟩
  | cons e es => exact ⟨.comma, _, .inr rfl, rfl⟩

mutual

/-- The parser finds the tree of a formula and goes on behind it. -/
theorem expression_tokens (e : Formula) (fuel : Nat) (hfuel : 8 * e.tokens.length ≤ fuel)
    (power : Nat) (rest : List Token) :
    ∃ m, fuel ≤ m + 2 ∧ expression fuel power (e.tokens ++ rest) = extend m power e.tree rest := by
  cases e with
  | number n =>
      rw [tokens, List.length_singleton] at hfuel
      obtain ⟨k, rfl⟩ : ∃ k, fuel = k + 2 := ⟨fuel - 2, by omega⟩
      refine ⟨k + 1, Nat.le_succ _, ?_⟩
      rw [tokens, tree, List.singleton_append, expression_succ, operand_integer]
      rfl
  | name id =>
      rw [tokens, List.length_singleton] at hfuel
      obtain ⟨k, rfl⟩ : ∃ k, fuel = k + 2 := ⟨fuel - 2, by omega⟩
      refine ⟨k + 1, Nat.le_succ _, ?_⟩
      rw [tokens, tree, List.singleton_append, expression_succ, operand_name]
      rfl
  | signed sign e =>
      simp only [tokens, List.length_cons, List.length_append, List.length_nil] at hfuel
      obtain ⟨k, rfl⟩ : ∃ k, fuel = k + 7 := ⟨fuel - 7, by omega⟩
      refine ⟨k + 6, Nat.le_succ _, ?_⟩
      have he := expression_of_extend (by omega) (.inl rfl)
        (expression_tokens e k (by omega) powerUnary (.symbol .closeParen :: rest))
      have hinner : expression (k + 2) powerExpression (.symbol sign.symbol ::
          (e.tokens ++ .symbol .closeParen :: rest)) =
          some (.unary sign.op e.tree, .symbol .closeParen :: rest) := by
        rw [expression_succ, operand_unary (unary?_symbol sign)
          (show powerExpression ≤ powerUnary from Nat.zero_le _) he]
        exact extend_stop (.inl rfl) _
      have hbegins : beginsArithmetic (.symbol sign.symbol ::
          (e.tokens ++ .symbol .closeParen :: rest)) = true := by
        cases sign <;> rfl
      simp only [tokens, tree, List.cons_append, List.append_assoc, List.nil_append]
      exact expression_group hbegins rfl hinner
  | operation o l r =>
      simp only [tokens, List.length_cons, List.length_append, List.length_nil] at hfuel
      obtain ⟨k, rfl⟩ : ∃ k, fuel = k + 5 := ⟨fuel - 5, by omega⟩
      refine ⟨k + 4, Nat.le_succ _, ?_⟩
      -- the left operand stops at the operator, the right one at the closing parenthesis, so that
      -- the binding powers of both do not matter
      obtain ⟨strength, inner, ho⟩ := exists_binary?_symbol o
      obtain ⟨m, hm, hl⟩ := expression_tokens l k (by omega) powerExpression
        (.symbol o.symbol :: (r.tokens ++ .symbol .closeParen :: rest))
      obtain ⟨m, rfl⟩ : ∃ j, m = j + 2 := ⟨m - 2, by omega⟩
      have hr := expression_of_extend (by omega) (.inl rfl)
        (expression_tokens r (m + 1) (by omega) inner (.symbol .closeParen :: rest))
      have hinner : expression k powerExpression (l.tokens ++ .symbol o.symbol ::
          (r.tokens ++ .symbol .closeParen :: rest)) =
          some (.binary o.op l.tree r.tree, .symbol .closeParen :: rest) := by
        rw [hl, extend_binary ho (show powerExpression ≤ strength from Nat.zero_le _), hr]
        exact extend_stop (.inl rfl) _
      have hsymbol : o.symbol ≠ .walrus ∧ o.symbol ≠ .assign := by cases o <;> decide
      simp only [tokens, tree, List.cons_append, List.append_assoc, List.nil_append]
      exact expression_group (l.beginsArithmetic_tokens hsymbol.1 hsymbol.2 _) rfl hinner
  | call f args =>
      simp only [tokens, List.length_cons, List.length_append, List.length_nil] at hfuel
      obtain ⟨k, rfl⟩ : ∃ k, fuel = k + 2 := ⟨fuel - 2, by omega⟩
      refine ⟨k, Nat.le_refl _, ?_⟩
      have hargs := arguments_argumentTokens args k (by omega) true rest
      simp only [tokens, tree, List.cons_append, List.append_assoc, List.nil_append]
      rw [expression_succ, operand_name]
      show extend (k + 1) power (.name f.text) _ = _
      rw [extend_call, hargs]
      rfl

/-- The parser finds the trees of arguments up to the closing parenthesis. -/
theorem arguments_argumentTokens (es : List Formula) (fuel : Nat)
    (hfuel : 8 * (argumentTokens es).length + 8 ≤ fuel) (first : Bool) (rest : List Token) :
    arguments fuel first 0 (argumentTokens es ++ .symbol .closeParen :: rest) =
      some (argumentTrees es, [], rest) := by
  obtain ⟨k, rfl⟩ : ∃ k, fuel = k + 2 := ⟨fuel - 2, by omega⟩
  cases es with
  | nil =>
      rw [argumentTokens, argumentTrees]
      exact arguments_nil first 0
  | cons e es =>
      simp only [argumentTokens, List.length_append] at hfuel
      simp only [argumentTokens, argumentTrees, List.append_assoc]
      -- behind an argument stands a parenthesis, or a comma and the other arguments
      have hothers : otherArguments (k + 1) 0 (separatorTokens es ++
          (argumentTokens es ++ .symbol .closeParen :: rest)) =
          some (argumentTrees es, [], rest) := by
        cases es with
        | nil =>
            rw [argumentTokens, argumentTrees]
            exact otherArguments_close 0
        | cons e' es =>
            have hcomma : (separatorTokens (e' :: es)).length = 1 := rfl
            refine (otherArguments_comma 0).trans ?_
            exact arguments_argumentTokens (e' :: es) k (by omega) false rest
      obtain ⟨s, behind, hs, hbehind⟩ := exists_stop_of_arguments es rest
      rw [hbehind] at hothers ⊢
      have he := expression_of_extend (by omega) hs
        (expression_tokens e k (by omega) powerExpression (.symbol s :: behind))
      have hbegins : beginsArithmetic (e.tokens ++ .symbol s :: behind) = true := by
        rcases hs with rfl | rfl <;> exact e.beginsArithmetic_tokens (by decide) (by decide) _
      rw [arguments_arithmetic hbegins first he, hothers]
      rfl

end

/-! ## Whole texts -/

theorem mem_delimiters_of_mem_blanks {gap : Nat} {c : Char} (hc : c ∈ blanks gap) :
    c ∈ delimiters := by
  rw [List.eq_of_mem_replicate hc]
  decide

mutual

/-- A formula with the plain operators is written in numbers, names and delimiters. -/
theorem of_mem_write {gap : Nat} {e : Formula} {c : Char} (hc : c ∈ e.write Operator.plain gap) :
    isNameLike c = true ∨ c ∈ delimiters := by
  -- the recursion is that of the writing: a formula is written by writing its parts
  cases e with
  | number n =>
      rw [write] at hc
      exact .inl (isNameLike_of_isDigit (isDigit_of_mem_ofNat hc))
  | name id =>
      rw [write] at hc
      exact .inl (id.isNameLike_of_mem hc)
  | signed sign e =>
      have hsign : sign.char ∈ delimiters := by cases sign <;> decide
      simp only [write, List.mem_cons, List.mem_append, List.not_mem_nil, or_false] at hc
      rcases hc with rfl | rfl | hc | rfl
      · exact .inr (by decide)
      · exact .inr hsign
      · exact of_mem_write hc
      · exact .inr (by decide)
  | operation o l r =>
      have hall : o.plain.all (delimiters.contains ·) = true := by cases o <;> decide
      have ho : ∀ c ∈ o.plain, c ∈ delimiters :=
        fun c hc => List.contains_iff_mem.mp (List.all_eq_true.mp hall c hc)
      simp only [write, List.mem_cons, List.mem_append, List.not_mem_nil, or_false] at hc
      rcases hc with rfl | hc | hc | hc | hc | hc | rfl
      · exact .inr (by decide)
      · exact of_mem_write hc
      · exact .inr (mem_delimiters_of_mem_blanks hc)
      · exact .inr (ho c hc)
      · exact .inr (mem_delimiters_of_mem_blanks hc)
      · exact of_mem_write hc
      · exact .inr (by decide)
  | call f args =>
      simp only [write, List.mem_cons, List.mem_append, List.not_mem_nil, or_false] at hc
      rcases hc with hc | rfl | hc | rfl
      · exact .inl (f.isNameLike_of_mem hc)
      · exact .inr (by decide)
      · exact of_mem_writeArguments hc
      · exact .inr (by decide)

/-- Arguments are written in characters of names and delimiters. -/
theorem of_mem_writeArguments {gap : Nat} {es : List Formula} {c : Char}
    (hc : c ∈ writeArguments Operator.plain gap es) : isNameLike c = true ∨ c ∈ delimiters := by
  cases es with
  | nil =>
      rw [writeArguments] at hc
      cases hc
  | cons e es =>
      have hseparator : c ∈ separator gap es → c ∈ delimiters := by
        intro hc
        cases es with
        | nil => cases hc
        | cons e' es =>
            rcases List.mem_cons.mp hc with rfl | hc
            · decide
            · exact mem_delimiters_of_mem_blanks hc
      rw [writeArguments, List.mem_append, List.mem_append] at hc
      rcases hc with hc | hc | hc
      · exact of_mem_write hc
      · exact .inr (hseparator hc)
      · exact of_mem_writeArguments hc

end

/-- A formula with the plain operators is parsed to its tree. -/
theorem parse?_write (gap : Nat) {e : Formula} (hnesting : e.nesting ≤ maxBracketDepth) :
    parse? (e.write Operator.plain gap) = some e.tree := by
  have hscans : Scans 0 (e.write Operator.plain gap ++ []) e.tokens 0 [] :=
    scans gap e 0 (by omega) delimited_nil
  rw [List.append_nil] at hscans
  have hblank : (e.write Operator.plain gap).head? ≠ some ' ' := by
    obtain ⟨c, s, hs, hc⟩ := e.exists_write_eq_cons Operator.plain gap
    rw [hs]
    intro heq
    rw [Option.some.inj heq] at hc
    exact absurd hc (by decide)
  have htokens : tokens? (e.write Operator.plain gap) = some e.tokens := by
    rw [tokens?_eq_scan (fun c hc => of_mem_write hc) hblank]
    exact hscans.scan_eq
  have hlength := hscans.length_le
  rw [List.length_nil, Nat.add_zero] at hlength
  obtain ⟨m, hm, he⟩ := expression_tokens e (8 * ((e.write Operator.plain gap).length + 2))
    (by omega) powerExpression []
  obtain ⟨m, rfl⟩ : ∃ j, m = j + 1 := ⟨m - 1, by omega⟩
  rw [List.append_nil, extend_nil] at he
  rw [parse?, htokens]
  show Option.bind (expression _ powerExpression e.tokens) _ = _
  rw [he]
  rfl

/-- The text of a formula in a program is parsed to its tree. -/
theorem parseText?_text (gap : Nat) {e : Formula} (hnesting : e.nesting ≤ maxBracketDepth) :
    parseText? (e.text gap) = some e.tree := by
  have hplain := plainOperators_write gap e []
  have hnil : plainOperators [] = [] := rfl
  rw [List.append_nil, hnil, List.append_nil] at hplain
  rw [parseText?, trim_text, text, hplain, parse?_write gap hnesting]

/-- A text in the notation of the lab programs with every operation in parentheses stands for what
the operations of its formula give, and fails for the cause for which they fail. -/
theorem evalText_text (env : Environment) (gap : Nat) (e : Formula)
    (hnesting : e.nesting ≤ maxBracketDepth) :
    evalText env (e.text gap) = (e.value env).mapError fun cause =>
      ⟨cause, if cause.quotesExpression then some (e.text gap) else none⟩ := by
  have hvalue : valueOf env (e.text gap) = e.value env := by
    rw [valueOf, parseText?_text gap hnesting]
    show e.tree.value env = _
    rw [Tree.value, eval_tree]
    rfl
  rw [evalText, hvalue]

/-- Elementwise operators, a power, a sign and a call have a value; a division by zero fails. -/
theorem evalText_text_of_operators :
    let env : Environment := [("x", 3.0)]
    (∃ y, evalText env "((x.*2)+(-abs((2^3))))" = .ok y ∧ (y == -2.0) = true) ∧
    evalText env "(1 ./ (x - x))" = .error ⟨.arithmetic .realDivision, some "(1 ./ (x - x))"⟩ := by
  intro env
  let x : Formula := name ⟨'x', [], by decide, by decide, by decide⟩
  let abs : Identifier := ⟨'a', ['b', 's'], by decide, by decide, by decide⟩
  let digit (n : Fin 10) : Formula := number ⟨n, by revert n; decide⟩
  constructor
  · let e := operation .plus (operation .eachTimes x (digit 2))
      (signed .minus (call abs [operation .power (digit 2) (digit 3)]))
    have htext : e.text 0 = "((x.*2)+(-abs((2^3))))".toList := by rfl
    have hvalue : (e.value env).toOption.any (· == -2.0) = true := by decide +kernel
    have he := evalText_text env 0 e (by decide)
    rw [htext] at he
    cases heval : e.value env with
    | error cause =>
        rw [heval] at hvalue
        cases hvalue
    | ok y =>
        rw [heval] at hvalue he
        exact ⟨y, he, hvalue⟩
  · let e := operation .eachDivide (digit 1) (operation .minus x x)
    have htext : e.text 1 = "(1 ./ (x - x))".toList := by rfl
    have hvalue : e.value env = .error (.arithmetic .realDivision) := by rfl
    have he := evalText_text env 1 e (by decide)
    rw [htext, hvalue] at he
    exact he

end Formula

end SignalLab.Expression
