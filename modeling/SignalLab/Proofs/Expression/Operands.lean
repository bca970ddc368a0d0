import Mathlib.Algebra.Group.Nat.Defs
import Mathlib.Data.List.Forall2
import SignalLab.Proofs.Expression.Notation

/-!
# Operands — numbers and names that are read alone, in parentheses and as arguments

An operand is a text without brackets together with what the scanner and the parser make of it before
a comma, a closing parenthesis or the end (`Operand`).  Natural numbers and names are operands, and so
is an operand with a sign in front.  An operand is read as its tree, whether it stands alone
(`Operand.parseText?_text`) or in parentheses (`Operand.parseText?_group`), and a call has the value of
its function at its operands (`Operand.evalText_call`).
-/

namespace SignalLab.Expression

open Text

/-! ## The ends of operands -/

/-- Tokens before which an operand ends: there are none, or a parenthesis is closed, or a comma
separates it from the next argument. -/
def Stops (rest : List Token) : Prop :=
  rest = [] ∨ ∃ s behind, (s = .closeParen ∨ s = .comma) ∧ rest = .symbol s :: behind

theorem stops_nil : Stops [] := .inl rfl

/-- An expression stops at a closing parenthesis and at a comma. -/
theorem stops_symbol {s : Symbol} (hs : s = .closeParen ∨ s = .comma) (behind : List Token) :
    Stops (.symbol s :: behind) :=
  .inr ⟨s, behind, hs, rfl⟩

/-- Where an expression stops nothing extends it. -/
theorem Stops.extend {rest : List Token} (h : Stops rest) (n power : Nat) (left : Tree) :
    extend (n + 1) power left rest = some (left, rest) := by
  rcases h with rfl | ⟨s, behind, hs, rfl⟩
  · exact extend_nil left
  · exact extend_stop hs left

/-- The characters of operands beside those of words. -/
def IsOperandChar (c : Char) : Prop :=
  isNameLike c = true ∧ isBlank c = false ∨ c ∈ ['+', '-', '.']

/-- A character of an operand begins one. -/
theorem beginsOperand_of_isOperandChar {c : Char} (hc : IsOperandChar c) (s : Text) :
    BeginsOperand (c :: s) := by
  intro d hd
  rw [← Option.some.inj hd]
  rcases hc with ⟨hlike, -⟩ | hsign
  · exact ⟨ne_of_isNameLike hlike (by decide), ne_of_isNameLike hlike (by decide),
      ne_of_isNameLike hlike (by decide)⟩
  · refine ⟨?_, ?_, ?_⟩ <;> (rintro rfl; exact absurd hsign (by decide))

/-- A text without brackets that is read as an operand. -/
structure Operand where
  text : Text
  tokens : List Token
  tree : Tree
  chars : ∀ c ∈ text, IsOperandChar c
  scans : ∀ (depth : Nat) {rest : Text}, Delimited rest →
    Scans depth (text ++ rest) tokens depth rest
  parses : ∀ (fuel : Nat) {power : Nat} {rest : List Token}, 8 * tokens.length ≤ fuel →
    power ≤ powerUnary → Stops rest → expression fuel power (tokens ++ rest) = some (tree, rest)
  begins : ∀ {s : Symbol} (rest : List Token), s = .closeParen ∨ s = .comma →
    beginsArithmetic (tokens ++ .symbol s :: rest) = true
  plain : tree.isStarred = false

/-! ## Numbers, names and signs -/

/-- A digit is a character of operands. -/
theorem isOperandChar_of_isDigit {c : Char} (hc : c.isDigit = true) : IsOperandChar c :=
  .inl ⟨isNameLike_of_isDigit hc, isBlank_of_isWordChar (isWordChar_of_isDigit hc)⟩

/-- The characters of names are no blanks, in any script. -/
theorem isNameLike_of_name {c : Char} (hc : isNameStart c = true ∨ isNameContinue c = true) :
    isNameLike c = true ∧ isBlank c = false := by
  refine ⟨?_, Bool.eq_false_iff.mpr fun hblank => ?_⟩
  · by_cases hascii : c.toNat < 0x80
    · have hchar : isIdentifierChar c = true := by
        rw [isIdentifierChar, Bool.or_eq_true]
        rw [isNameStart, if_pos hascii, isNameContinue, if_pos hascii, Bool.or_eq_true] at hc
        exact hc.elim .inl id
      exact isNameLike_of_isWordChar (isWordChar_of_isIdentifierChar hchar)
    · rw [isNameLike, decide_eq_true (Nat.not_lt.mp hascii), Bool.or_true]
  · have hnot : isNameStart c = false ∧ isNameContinue c = false :=
      forall_blank (p := fun c => isNameStart c = false ∧ isNameContinue c = false)
        (by decide +kernel) hblank
    rw [hnot.1, hnot.2] at hc
    rcases hc with hc | hc <;> cases hc

/-- No digit begins a name. -/
theorem isDigit_of_isNameStart {c : Char} (hc : isNameStart c = true) : c.isDigit = false := by
  rw [isNameStart] at hc
  split at hc
  · exact isDigit_of_isAsciiNameStart hc
  · rename_i hascii
    refine Bool.eq_false_iff.mpr fun hdigit => ?_
    have hbounds := toNat_of_isDigit hdigit
    omega

/-- The characters of a word that is read as a name. -/
theorem of_wordToken?_eq_name {word id : Text} (h : wordToken? word = some (.name id)) :
    ∃ c others, word = c :: others ∧ isNameStart c = true ∧
      ∀ d ∈ others, isNameContinue d = true := by
  rw [wordToken?.eq_def] at h
  split at h
  · cases h
  · split at h
    · cases h
    · rename_i c others _
      split at h
      · rename_i hchars
        obtain ⟨hfirst, hothers⟩ := (Bool.and_eq_true _ _).mp hchars
        exact ⟨c, others, rfl, hfirst, List.all_eq_true.mp hothers⟩
      · cases h

/-- A name consists of characters of names. -/
theorem isNameLike_of_wordToken? {word id : Text} (h : wordToken? word = some (.name id))
    {c : Char} (hc : c ∈ word) : isNameLike c = true ∧ isBlank c = false := by
  obtain ⟨first, others, rfl, hfirst, hothers⟩ := of_wordToken?_eq_name h
  rcases List.mem_cons.mp hc with rfl | hc
  · exact isNameLike_of_name (.inl hfirst)
  · exact isNameLike_of_name (.inr (hothers c hc))

/-- Numbers are written with as many digits as a numeral may have, and with far more than doubles
reach to. -/
theorem length_ofNat_le {n : Nat} (h : n < 2 ^ maxIntegerDigits) :
    (Text.ofNat n).length ≤ maxIntegerDigits := by
  have hpow : 2 ^ maxIntegerDigits ≤ 10 ^ maxIntegerDigits :=
    Nat.pow_le_pow_left (by decide) maxIntegerDigits
  exact (Nat.length_toDigits_le_iff (by decide) (by decide)).mpr (Nat.lt_of_lt_of_le h hpow)

/-- A name is scanned as one token, whatever delimits it. -/
theorem scans_name {word id : Text} (h : wordToken? word = some (.name id)) {rest : Text}
    (hrest : Delimited rest) (depth : Nat) : Scans depth (word ++ rest) [.name id] depth rest := by
  have hlike : ∀ c ∈ word, isNameLike c = true := fun c hc => (isNameLike_of_wordToken? h hc).1
  obtain ⟨first, others, rfl, hfirst, -⟩ := of_wordToken?_eq_name h
  exact .word (isDigit_of_isNameStart hfirst) hlike h hrest depth

namespace Operand

/-- An operand of one token. -/
def single (text : Text) (token : Token) (tree : Tree) (chars : ∀ c ∈ text, IsOperandChar c)
    (scans : ∀ (depth : Nat) {rest : Text}, Delimited rest →
      Scans depth (text ++ rest) [token] depth rest)
    (hoperand : ∀ (n power : Nat) (ts : List Token),
      operand (n + 1) power (token :: ts) = some (tree, ts))
    (begins : ∀ {s : Symbol} (rest : List Token), s = .closeParen ∨ s = .comma →
      beginsArithmetic (token :: .symbol s :: rest) = true)
    (plain : tree.isStarred = false) : Operand where
  text := text
  tokens := [token]
  tree := tree
  chars := chars
  scans := scans
  parses := by
    intro fuel power rest hfuel _ hrest
    obtain ⟨k, rfl⟩ : ∃ k, fuel = k + 2 := ⟨fuel - 2, by rw [List.length_singleton] at hfuel; omega⟩
    rw [List.singleton_append, expression_succ, hoperand]
    exact hrest.extend k power _
  begins := begins
  plain := plain

/-- A natural number. -/
def number (n : Numeral) : Operand :=
  single (Text.ofNat n.value) (.integer n.value) (.literal (.integer n.value))
    (fun _ hc => isOperandChar_of_isDigit (isDigit_of_mem_ofNat hc))
    (fun depth _ hrest => .number n.length_le hrest depth) (fun _ _ _ => operand_integer _)
    (fun _ _ => rfl) rfl

/-- A name as it is written. -/
def name (word id : Text) (h : wordToken? word = some (.name id)) : Operand :=
  single word (.name id) (.name id) (fun _ hc => .inl (isNameLike_of_wordToken? h hc))
    (fun depth _ hrest => scans_name h hrest depth) (fun _ _ _ => operand_name id)
    (fun _ hs => by rcases hs with rfl | rfl <;> rfl) rfl

section Operands

variable (o : Operand)

/-- An operand has tokens. -/
theorem tokens_ne_nil : o.tokens ≠ [] := by
  intro hnil
  have hbegins := o.begins [] (.inl rfl)
  rw [hnil] at hbegins
  cases hbegins

/-- An operand has no more tokens than characters, so that the fuel for it suffices. -/
theorem length_tokens_le : o.tokens.length ≤ o.text.length := by
  have hle := (o.scans 0 delimited_nil).length_le
  rwa [List.append_nil, List.length_nil, Nat.add_zero] at hle

/-- An operand begins with a character of operands. -/
theorem exists_text_eq_cons : ∃ c s, o.text = c :: s ∧ IsOperandChar c := by
  have hlength := o.length_tokens_le
  have hpos : 0 < o.tokens.length := List.length_pos_iff.mpr o.tokens_ne_nil
  obtain ⟨c, s, hs⟩ := List.exists_cons_of_length_pos (Nat.lt_of_lt_of_le hpos hlength)
  exact ⟨c, s, hs, o.chars c (hs ▸ List.mem_cons_self)⟩

theorem beginsOperand (rest : Text) : BeginsOperand (o.text ++ rest) := by
  obtain ⟨c, s, hs, hc⟩ := o.exists_text_eq_cons
  rw [hs]
  exact beginsOperand_of_isOperandChar hc (s ++ rest)

/-- An operand with a sign in front. -/
def signed (sign : Sign) : Operand where
  text := sign.char :: o.text
  tokens := .symbol sign.symbol :: o.tokens
  tree := .unary sign.op o.tree
  chars := by
    rintro c (_ | ⟨_, hc⟩)
    · cases sign <;> exact .inr (by decide)
    · exact o.chars c hc
  scans depth rest hrest := (Scans.sign sign (o.beginsOperand rest) depth).trans (o.scans depth hrest)
  parses := by
    intro fuel power rest hfuel hpower hrest
    rw [List.length_cons] at hfuel
    obtain ⟨k, rfl⟩ : ∃ k, fuel = k + 2 := ⟨fuel - 2, by omega⟩
    have ho := o.parses k (by omega) (Nat.le_refl powerUnary) hrest
    rw [List.cons_append, expression_succ, operand_unary (Formula.unary?_symbol sign) hpower ho]
    exact hrest.extend k power _
  begins _ _ := by
    cases sign <;> rfl
  plain := rfl

end Operands

/-- An integer, with a minus sign if it is negative. -/
def integer : (n : Int) → (Text.ofNat n.natAbs).length ≤ maxIntegerDigits → Operand
  | .ofNat n, h => number ⟨n, h⟩
  | .negSucc n, h => (number ⟨n + 1, h⟩).signed .minus

section Integers

variable {n : Int} (h : (Text.ofNat n.natAbs).length ≤ maxIntegerDigits)

/-- An integer as an operand is its decimal text. -/
theorem text_integer : (integer n h).text = Text.ofInt n := by
  cases n with
  | ofNat n => rfl
  | negSucc n => rfl

/-- An integer as an operand has the value that it is. -/
theorem eval_integer (env : Environment) : (integer n h).tree.eval env = .ok (.integer n) := by
  cases n with
  | ofNat n =>
      show Tree.eval env (.literal (.integer n)) = _
      rw [Tree.eval]
      rfl
  | negSucc n =>
      show Tree.eval env (.unary .minus (.literal (.integer (n + 1)))) = _
      rw [Tree.eval, Tree.eval]
      rfl

end Integers

/-! ## Arguments -/

/-- The text of arguments, with as many blanks as given behind a comma. -/
def argumentsText (gap : Nat) : List Operand → Text
  | [] => []
  | [o] => o.text
  | o :: os => o.text ++ ',' :: (Formula.blanks gap ++ argumentsText gap os)

/-- The tokens of arguments. -/
def argumentTokens : List Operand → List Token
  | [] => []
  | [o] => o.tokens
  | o :: os => o.tokens ++ .symbol .comma :: argumentTokens os

/-- Arguments are scanned one after the other, with their commas and gaps. -/
theorem scans_arguments (gap : Nat) (os : List Operand) (depth : Nat) {rest : Text}
    (hrest : Delimited rest) :
    Scans depth (argumentsText gap os ++ rest) (argumentTokens os) depth rest := by
  fun_induction argumentsText gap os with
  | case1 => exact .refl depth rest
  | case2 o => exact o.scans depth hrest
  | case3 o os hne ih =>
      rw [argumentTokens]
      · simp only [List.append_assoc, List.cons_append]
        have hcomma : Scans depth (',' :: (Formula.blanks gap ++ (argumentsText gap os ++ rest)))
            [.symbol .comma] depth _ :=
          .operator (by decide) (by decide) rfl (Nat.le_refl _) rfl rfl depth
        exact (o.scans depth (delimited_cons (by decide) _)).trans
          (hcomma.trans ((Scans.gaps depth gap _).trans ih))
      · exact hne

/-- The parser finds the trees of arguments up to the closing parenthesis. -/
theorem arguments_argumentTokens (os : List Operand) (fuel : Nat)
    (hfuel : 8 * (argumentTokens os).length + 8 ≤ fuel) (first : Bool) (rest : List Token) :
    arguments fuel first 0 (argumentTokens os ++ .symbol .closeParen :: rest) =
      some (os.map tree, [], rest) := by
  obtain ⟨k, rfl⟩ : ∃ k, fuel = k + 2 := ⟨fuel - 2, by omega⟩
  fun_induction argumentTokens os generalizing first k with
  | case1 => exact arguments_nil first 0
  | case2 o =>
      have ho := o.parses k (by omega) (Nat.zero_le powerUnary)
        (stops_symbol (.inl rfl) rest)
      rw [arguments_arithmetic (o.begins rest (.inl rfl)) first ho, otherArguments_close]
      rfl
  | case3 o os hne ih =>
      rw [List.length_append, List.length_cons] at hfuel
      have ho := o.parses k (by omega) (Nat.zero_le powerUnary)
        (stops_symbol (.inr rfl) (argumentTokens os ++ .symbol .closeParen :: rest))
      obtain ⟨k, rfl⟩ : ∃ j, k = j + 2 := ⟨k - 2, by omega⟩
      rw [List.append_assoc, List.cons_append,
        arguments_arithmetic (o.begins _ (.inr rfl)) first ho, otherArguments_comma,
        ih false k (by omega)]
      rfl

/-! ## Whole texts -/

/-- The characters of calls and operands beside those of words. -/
def marks : Text := [' ', '(', ')', ',', '+', '-', '.']

section WholeTexts

variable {s : Text} (htrim : s.trim = s) (hs : ∀ c ∈ s, isNameLike c = true ∨ c ∈ marks)
include htrim hs

/-- A text of these characters is scanned as it stands, and no operator in it is rewritten. -/
theorem tokens?_plainOperators :
    tokens? (plainOperators s.trim) = scan (s.length + 1) 0 s ∧ plainOperators s.trim = s := by
  have hnot : ∀ d, isNameLike d = false → d ∉ marks → d ∉ s := by
    intro d hname hother hd
    rcases hs d hd with h | h
    · rw [hname] at h
      cases h
    · exact hother h
  have hplain : plainOperators s = s := by
    rw [plainOperators, substitutePair_eq_self (hnot _ (by decide) (by decide)),
      substitutePair_eq_self (hnot _ (by decide) (by decide)),
      substitutePair_eq_self (hnot _ (by decide) (by decide)),
      substitute_of_not_mem (hnot _ (by decide) (by decide))]
  have hblank : s.head? ≠ some ' ' := by
    intro hhead
    have := isBlank_of_head?_trim (htrim.symm ▸ hhead)
    cases this
  have hlines : ∀ c ∈ s, c ∉ lineChars := by
    intro c hc hline
    have hall : lineChars.all (fun c => !isNameLike c && !marks.contains c) = true := by decide
    have hother := List.all_eq_true.mp hall c hline
    rw [Bool.and_eq_true, Bool.not_eq_true', Bool.not_eq_true', List.contains_eq_mem,
      decide_eq_false_iff_not] at hother
    exact hnot c hother.1 hother.2 hc
  rw [htrim, hplain]
  exact ⟨tokens?_eq_scan_of_not_mem hlines hblank, rfl⟩

/-- What is scanned and parsed to its end is read as that tree. -/
theorem parseText?_eq {tokens : List Token} {t : Tree} (hscans : Scans 0 s tokens 0 [])
    (hparses : ∀ fuel, 8 * (tokens.length + 2) ≤ fuel →
      expression fuel powerExpression tokens = some (t, [])) :
    parseText? s = some t := by
  obtain ⟨htokens, hplain⟩ := tokens?_plainOperators htrim hs
  have hlength := hscans.length_le
  rw [List.length_nil, Nat.add_zero] at hlength
  rw [parseText?, parse?, htokens, hplain, hscans.scan_eq]
  show Option.bind (expression _ powerExpression tokens) _ = _
  rw [hparses _ (by omega)]
  rfl

/-- What is not scanned is not read. -/
theorem parseText?_eq_none (hscan : scan (s.length + 1) 0 s = none) : parseText? s = none := by
  rw [parseText?, parse?, (tokens?_plainOperators htrim hs).1, hscan]
  rfl

end WholeTexts

theorem mem_marks_of_isOperandChar {c : Char} (hc : IsOperandChar c) :
    isNameLike c = true ∨ c ∈ marks :=
  hc.imp And.left fun h => by
    have hsubset : ['+', '-', '.'] ⊆ marks := by decide
    exact hsubset h

/-- No character of an operand is blank. -/
theorem isBlank_of_isOperandChar {c : Char} (hc : IsOperandChar c) : isBlank c = false := by
  rcases hc with hc | hc
  · exact hc.2
  · have hall : ['+', '-', '.'].all (fun c => !isBlank c) = true := by decide
    exact Bool.not_eq_true' _ ▸ List.all_eq_true.mp hall c hc

/-- Arguments consist of names, digits and marks. -/
theorem of_mem_argumentsText {gap : Nat} {os : List Operand} {c : Char}
    (hc : c ∈ argumentsText gap os) : isNameLike c = true ∨ c ∈ marks := by
  fun_induction argumentsText gap os with
  | case1 => cases hc
  | case2 o => exact mem_marks_of_isOperandChar (o.chars c hc)
  | case3 o os hne ih =>
      rcases List.mem_append.mp hc with hc | hc
      · exact mem_marks_of_isOperandChar (o.chars c hc)
      · rcases List.mem_cons.mp hc with rfl | hc
        · exact .inr (by decide)
        · rcases List.mem_append.mp hc with hc | hc
          · rw [List.eq_of_mem_replicate hc]
            exact .inr (by decide)
          · exact ih hc

/-- An operand is parsed as its tree. -/
theorem parseText?_text (o : Operand) : parseText? o.text = some o.tree := by
  have hscans : Scans 0 (o.text ++ []) o.tokens 0 [] := o.scans 0 delimited_nil
  rw [List.append_nil] at hscans
  refine parseText?_eq (trim_of_no_blank fun c hc => isBlank_of_isOperandChar (o.chars c hc))
    (fun c hc => mem_marks_of_isOperandChar (o.chars c hc)) hscans fun fuel hfuel => ?_
  rw [← List.append_nil o.tokens]
  exact o.parses fuel (by omega) (Nat.zero_le _) stops_nil

/-! ### Parentheses -/

/-- A text in parentheses is trimmed. -/
theorem trim_group (s : Text) : trim ('(' :: (s ++ [')'])) = '(' :: (s ++ [')']) := by
  refine trim_eq_self (fun c hc => ?_) (fun c hc => ?_)
  · rw [← Option.some.inj hc]
    decide
  · rw [← List.cons_append, List.getLast?_concat] at hc
    rw [← Option.some.inj hc]
    decide

theorem mem_marks_of_group {s : Text} (hs : ∀ c ∈ s, IsOperandChar c) :
    ∀ c ∈ '(' :: (s ++ [')']), isNameLike c = true ∨ c ∈ marks := by
  intro c hc
  simp only [List.mem_cons, List.mem_append, List.not_mem_nil, or_false] at hc
  rcases hc with rfl | hc | rfl
  · exact .inr (by decide)
  · exact mem_marks_of_isOperandChar (hs c hc)
  · exact .inr (by decide)

/-- So is an operand in parentheses: they leave no trace in the tree. -/
theorem parseText?_group (o : Operand) : parseText? ('(' :: (o.text ++ [')'])) = some o.tree := by
  have hscans : Scans 0 ('(' :: (o.text ++ [')']))
      ([.symbol .openParen] ++ (o.tokens ++ [.symbol .closeParen])) 0 [] :=
    (Scans.opening (by decide) _).trans
      ((o.scans 1 (delimited_cons (c := ')') (by decide) [])).trans (.closing 0 []))
  refine parseText?_eq (trim_group o.text) (mem_marks_of_group o.chars) hscans fun fuel hfuel => ?_
  simp only [List.length_append, List.length_singleton] at hfuel
  obtain ⟨k, rfl⟩ : ∃ k, fuel = k + 5 := ⟨fuel - 5, by omega⟩
  have ho := o.parses k (by omega) (Nat.zero_le powerUnary) (stops_symbol (.inl rfl) [])
  rw [List.singleton_append, expression_group (o.begins [] (.inl rfl)) o.plain ho]
  exact extend_nil _

/-! ### Calls -/

/-- A call is read as the call of its function with the trees of its operands. -/
theorem parseText?_call (f : Identifier) (gap : Nat) (os : List Operand) :
    parseText? (f.text ++ '(' :: (argumentsText gap os ++ [')'])) =
      some (.call (.name f.text) (os.map tree) []) := by
  have hscans : Scans 0 (f.text ++ '(' :: (argumentsText gap os ++ [')']))
      ([.name f.text] ++ ([.symbol .openParen] ++ (argumentTokens os ++ [.symbol .closeParen])))
      0 [] :=
    (Scans.identifier f (delimited_cons (by decide) _) 0).trans ((Scans.opening (by decide) _).trans
      ((scans_arguments gap os 1 (delimited_cons (c := ')') (by decide) [])).trans (.closing 0 [])))
  have htrim : trim (f.text ++ '(' :: (argumentsText gap os ++ [')'])) =
      f.text ++ '(' :: (argumentsText gap os ++ [')']) := by
    refine trim_eq_self (fun c hc => ?_) (fun c hc => ?_)
    · rw [← Option.some.inj hc]
      exact isBlank_of_isWordChar (isWordChar_of_isAsciiNameStart f.first_start)
    · rw [← List.cons_append, ← List.append_assoc, List.getLast?_concat] at hc
      rw [← Option.some.inj hc]
      decide
  -- what is left: the text needs no rewriting, and the fuel suffices for its tokens
  refine parseText?_eq htrim (fun c hc => ?_) hscans fun fuel hfuel => ?_
  · simp only [List.mem_cons, List.mem_append, List.not_mem_nil, or_false] at hc
    rcases hc with hc | rfl | hc | rfl
    · exact .inl (f.isNameLike_of_mem hc)
    · exact .inr (by decide)
    · exact of_mem_argumentsText hc
    · exact .inr (by decide)
  · simp only [List.length_append, List.length_singleton] at hfuel
    obtain ⟨k, rfl⟩ : ∃ k, fuel = k + 3 := ⟨fuel - 3, by omega⟩
    have hargs := arguments_argumentTokens os (k + 1) (by omega) true []
    rw [List.singleton_append, expression_succ, operand_name]
    show extend (k + 2) powerExpression (.name f.text)
      (.symbol .openParen :: (argumentTokens os ++ [.symbol .closeParen])) = _
    rw [extend_call, hargs]
    exact extend_nil _

/-! ## Values -/

/-- An operand in parentheses stands for what it stands for alone. -/
theorem valueOf_group (env : Environment) (o : Operand) :
    valueOf env ('(' :: (o.text ++ [')'])) = valueOf env o.text := by
  rw [valueOf, valueOf, parseText?_group, parseText?_text]

/-- A value that is not complex becomes a double at the end. -/
theorem value_of_eval {t : Tree} {env : Environment} {q : Quantity} (h : t.eval env = .ok q)
    (hq : ∀ z, q ≠ .complex z) : t.value env = q.toReal.mapError .arithmetic := by
  rw [Tree.value, h]
  cases q with
  | complex z => exact absurd rfl (hq z)
  | integer n => rfl
  | real x => rfl

/-- So does the value of an operand. -/
theorem valueOf_text {o : Operand} {env : Environment} {q : Quantity}
    (ho : o.tree.eval env = .ok q) (hq : ∀ z, q ≠ .complex z) :
    valueOf env o.text = q.toReal.mapError .arithmetic := by
  rw [valueOf, o.parseText?_text]
  exact value_of_eval ho hq

/-- The values of operands, one by one. -/
theorem evalAll_trees {env : Environment} {os : List Operand} {args : List Quantity}
    (h : List.Forall₂ (fun o q => o.tree.eval env = .ok q) os args) :
    evalAll env (os.map tree) = .ok args := by
  induction h with
  | nil =>
      rw [List.map_nil, evalAll]
  | cons ho _ ih =>
      rw [List.map_cons, evalAll, ho, ih]
      rfl

/-- A call stands for the value of its function at the values of its operands. -/
theorem evalText_call {env : Environment} {f : Identifier} {g : Function}
    (hf : function? f.text = some g) (gap : Nat) {os : List Operand} {args : List Quantity}
    (hargs : List.Forall₂ (fun o q => o.tree.eval env = .ok q) os args) {q : Quantity}
    (hvalue : g.apply args = .ok q) {y : Float} (hreal : q.toReal = .ok y) :
    evalText env (f.text ++ '(' :: (argumentsText gap os ++ [')'])) = .ok y := by
  have heval : Tree.eval env (.call (.name f.text) (os.map tree) []) = .ok q := by
    rw [Tree.eval, calledFunction, hf, evalAll_trees hargs]
    exact hvalue
  have hq : ∀ z, q ≠ .complex z := by
    rintro z rfl
    cases hreal
  have htree : Tree.value env (.call (.name f.text) (os.map tree) []) = .ok y := by
    rw [value_of_eval heval hq, hreal]
    rfl
  rw [evalText, valueOf, parseText?_call]
  exact congrArg (Except.mapError _) htree

end Operand

end SignalLab.Expression
