import SignalLab.Expression.Lexer
import SignalLab.Proofs.Text.Names

/-!
# Scanning — words, numerals and operators one after the other

The scanner takes what stands at the front of a text for a token and goes on behind it.  A word or a
numeral goes as far as its characters do, so what it is depends on the character behind it; an
arithmetic text has a delimiter there, or ends.  `Scans` says that the front of a text is read as
some tokens with a rest left over, whatever bound on the number of steps the scanner was given, so
that a text is scanned piece by piece (`Scans.trans`).
-/

namespace SignalLab.Expression

open Text

/-! ## The ends of words and numerals -/

/-- The characters that stand behind the words and numerals of an arithmetic text. -/
def delimiters : Text := [' ', '(', ')', '+', '-', '*', '/', ',']

/-- Before such a text a word or a numeral ends. -/
def Delimited (rest : Text) : Prop :=
  ∀ c, rest.head? = some c → c ∈ delimiters

theorem delimited_nil : Delimited [] := by
  intro c hc
  cases hc

/-- A delimiter delimits what stands in front of it. -/
theorem delimited_cons {c : Char} (hc : c ∈ delimiters) (rest : Text) : Delimited (c :: rest) := by
  intro d hd
  rwa [← Option.some.inj hd]

/-- No delimiter is a character of names. -/
theorem isNameLike_of_mem_delimiters {c : Char} (hc : c ∈ delimiters) : isNameLike c = false := by
  have hall : delimiters.all (fun c => !isNameLike c) = true := by decide
  exact Bool.not_eq_true' _ ▸ List.all_eq_true.mp hall c hc

/-- No delimiter is a digit. -/
theorem isDigit_of_mem_delimiters {c : Char} (hc : c ∈ delimiters) : c.isDigit = false := by
  have hall : delimiters.all (fun c => !c.isDigit) = true := by decide
  exact Bool.not_eq_true' _ ▸ List.all_eq_true.mp hall c hc

/-- No delimiter is a mark of a text literal. -/
theorem add?_of_mem_delimiters {c : Char} (hc : c ∈ delimiters) (m : TextMark) :
    m.add? c = none := by
  simp only [delimiters, List.mem_cons, List.not_mem_nil, or_false] at hc
  rcases hc with rfl | rfl | rfl | rfl | rfl | rfl | rfl | rfl <;> rfl

/-! ## Words -/

/-- Characters of words are characters of names. -/
theorem isNameLike_of_isWordChar {c : Char} (hc : isWordChar c = true) :
    isNameLike c = true := by
  rw [isWordChar, Bool.or_eq_true] at hc
  rw [isNameLike, Bool.or_assoc, Bool.or_eq_true]
  refine hc.imp id fun hc => ?_
  rw [isAlphanumeric] at hc
  split at hc
  · rw [hc, Bool.true_or]
  · rename_i hascii
    rw [decide_eq_true (Nat.not_lt.mp hascii), Bool.or_true]

/-- No character that has a meaning of its own for the scanner is part of a name. -/
theorem ne_of_isNameLike {c d : Char} (hc : isNameLike c = true) (hd : isNameLike d = false) :
    c ≠ d := by
  rintro rfl
  rw [hc] at hd
  cases hd

/-- Gaps are blanks, tabs and form feeds. -/
theorem isGap_of_ne {c : Char} (hspace : c ≠ ' ') (htab : c ≠ '\t') (hfeed : c ≠ '\x0c') :
    isGap c = false := by
  rw [isGap, beq_false_of_ne hspace, beq_false_of_ne htab, beq_false_of_ne hfeed]
  rfl

/-- No character of a name is a gap. -/
theorem isGap_of_isNameLike {c : Char} (hc : isNameLike c = true) : isGap c = false :=
  isGap_of_ne (ne_of_isNameLike hc (by decide)) (ne_of_isNameLike hc (by decide))
    (ne_of_isNameLike hc (by decide))

/-- A word is no text literal: no quote follows it. -/
theorem takeTextMark?_word {word rest : Text} (hword : ∀ c ∈ word, isNameLike c = true)
    (hrest : Delimited rest) (m : TextMark) : takeTextMark? m (word ++ rest) = none := by
  induction word generalizing m with
  | nil =>
      cases rest with
      | nil => rfl
      | cons c rest =>
          have hc : c ∈ delimiters := hrest c rfl
          have hquote : ¬ (c = '\'' ∨ c = '"') := by
            rintro (rfl | rfl) <;> exact absurd hc (by decide)
          rw [List.nil_append, takeTextMark?, if_neg hquote, add?_of_mem_delimiters hc]
  | cons c word ih =>
      have hc : isNameLike c = true := hword c List.mem_cons_self
      have hquote : ¬ (c = '\'' ∨ c = '"') := by
        rintro (h | h) <;> exact ne_of_isNameLike hc (by decide) h
      rw [List.cons_append, takeTextMark?, if_neg hquote]
      cases m.add? c with
      | none => rfl
      | some m => exact ih (fun d hd => hword d (List.mem_cons_of_mem _ hd)) m

/-- A word is taken up to what delimits it. -/
theorem takeName_word {word rest : Text} (hword : ∀ c ∈ word, isNameLike c = true)
    (hrest : Delimited rest) : takeName (word ++ rest) = (word, rest) := by
  have hstop : rest.takeWhile isNameLike = [] ∧ rest.dropWhile isNameLike = rest := by
    cases rest with
    | nil => exact ⟨rfl, rfl⟩
    | cons c rest =>
        have hc : ¬ isNameLike c = true := by
          rw [isNameLike_of_mem_delimiters (hrest c rfl)]
          decide
        exact ⟨List.takeWhile_cons_of_neg hc, List.dropWhile_cons_of_neg hc⟩
  rw [takeName, List.takeWhile_append_of_pos hword, List.dropWhile_append_of_pos hword, hstop.1,
    hstop.2, List.append_nil]

/-- A numeral begins with a digit or with a point. -/
theorem beginsNumeral_cons {c : Char} (hc : c ≠ '.') (s : Text) :
    beginsNumeral (c :: s) = c.isDigit := by
  unfold beginsNumeral
  split
  · rename_i heq
    cases heq
    exact absurd rfl hc
  · rename_i heq
    cases heq
    rfl
  · rename_i heq
    cases heq

/-- The text begins with a word or a symbol: not with a blank, a comment, another line, a numeral or
a text literal. -/
structure BeginsPlainly (c : Char) (s : Text) : Prop where
  gap : isGap c = false
  comment : c ≠ '#'
  line : c ≠ '\n'
  joined : c ≠ '\\'
  numeral : beginsNumeral (c :: s) = false
  mark : takeTextMark? {} (c :: s) = none

/-- A word is read as far as its characters go. -/
theorem BeginsPlainly.scan_word {c : Char} {s : Text} (h : BeginsPlainly c s)
    (hc : isNameLike c = true) (n depth : Nat) :
    scan (n + 1) depth (c :: s) =
      (wordToken? (takeName (c :: s)).1).bind fun token =>
        (scan n depth (takeName (c :: s)).2).map (token :: ·) := by
  rw [scan.eq_def]
  simp only [h.gap, h.comment, h.line, h.joined, h.numeral, h.mark, hc, Bool.false_eq_true, if_false,
    if_true]
  cases wordToken? (takeName (c :: s)).1 with
  | none => rfl
  | some token => exact Option.map_eq_bind.symm

/-- A word at the front is one token, or none if it is neither reserved nor a name. -/
theorem scan_word {c : Char} {word rest : Text} (hc : c.isDigit = false)
    (hword : ∀ d ∈ c :: word, isNameLike d = true) (hrest : Delimited rest) (n depth : Nat) :
    scan (n + 1) depth (c :: word ++ rest) =
      (wordToken? (c :: word)).bind fun token => (scan n depth rest).map (token :: ·) := by
  have hname : isNameLike c = true := hword c List.mem_cons_self
  have hplain : BeginsPlainly c (word ++ rest) := {
    gap := isGap_of_isNameLike hname
    comment := ne_of_isNameLike hname (by decide)
    line := ne_of_isNameLike hname (by decide)
    joined := ne_of_isNameLike hname (by decide)
    numeral := by rw [beginsNumeral_cons (ne_of_isNameLike hname (by decide)), hc]
    mark := takeTextMark?_word hword hrest {} }
  have htake : takeName (c :: (word ++ rest)) = (c :: word, rest) := takeName_word hword hrest
  rw [List.cons_append, hplain.scan_word hname, htake]

/-- The reserved words. -/
def reservedWords : List Text :=
  expressionKeywords.map (fun (word, _) => word.toList) ++ statementKeywords.map String.toList

/-- The reserved words are listed. -/
theorem mem_reservedWords {name : Text} {k : Keyword} (h : keyword? name = some k) :
    name ∈ reservedWords := by
  rw [keyword?.eq_def] at h
  split at h
  · rename_i word k' hfind
    have hword := List.find?_some hfind
    rw [← of_decide_eq_true hword]
    exact List.mem_append_left _ (List.mem_map.mpr ⟨_, List.mem_of_find?_eq_some hfind, rfl⟩)
  · split at h
    · rename_i hany
      obtain ⟨word, hmem, hword⟩ := List.any_eq_true.mp hany
      rw [← of_decide_eq_true hword]
      exact List.mem_append_right _ (List.mem_map.mpr ⟨word, hmem, rfl⟩)
    · cases h

/-! ## Numerals -/

/-- Digits are taken one by one. -/
theorem takeBaseDigits?_cons {c : Char} (hc : c ≠ '_') (s : Text) :
    takeBaseDigits? Char.isDigit (c :: s) =
      if c.isDigit then
        (takeBaseDigits? Char.isDigit s).map fun (digits, rest) => (c :: digits, rest)
      else some ([], c :: s) := by
  rw [takeBaseDigits?.eq_def]
  split
  · rename_i heq
    cases heq
  · rename_i heq
    cases heq
    exact absurd rfl hc
  · rename_i heq
    cases heq
    rw [if_neg hc]

/-- Before such a text the digits of a numeral end. -/
def EndsDigits (rest : Text) : Prop :=
  ∀ c, rest.head? = some c → c.isDigit = false ∧ c ≠ '_'

/-- A delimiter ends digits. -/
theorem Delimited.endsDigits {rest : Text} (h : Delimited rest) : EndsDigits rest := by
  intro c hc
  refine ⟨isDigit_of_mem_delimiters (h c hc), ?_⟩
  rintro rfl
  exact absurd (h '_' hc) (by decide)

/-- Digits are read as far as they go. -/
theorem takeBaseDigits?_digits {digits rest : Text} (hdigits : ∀ c ∈ digits, c.isDigit = true)
    (hrest : EndsDigits rest) :
    takeBaseDigits? Char.isDigit (digits ++ rest) = some (digits, rest) := by
  induction digits with
  | nil =>
      cases rest with
      | nil => rfl
      | cons c rest =>
          obtain ⟨hc, hunderscore⟩ := hrest c rfl
          rw [List.nil_append, takeBaseDigits?_cons hunderscore, hc, if_neg (by decide)]
  | cons c digits ih =>
      have hc : c.isDigit = true := hdigits c List.mem_cons_self
      have hunderscore : c ≠ '_' := by
        rintro rfl
        exact absurd hc (by decide)
      rw [List.cons_append, takeBaseDigits?_cons hunderscore, if_pos hc,
        ih fun d hd => hdigits d (List.mem_cons_of_mem _ hd)]
      rfl

/-- Digits are taken up to what ends them. -/
theorem takeDecimal?_digits {digits rest : Text} (hne : digits ≠ [])
    (hdigits : ∀ c ∈ digits, c.isDigit = true) (hrest : EndsDigits rest) :
    takeDecimal? (digits ++ rest) = some (digits, rest) := by
  obtain ⟨c, others, rfl⟩ := List.exists_cons_of_ne_nil hne
  have hhead : (c :: others ++ rest).head?.any Char.isDigit = true := hdigits c List.mem_cons_self
  rw [takeDecimal?, if_pos hhead]
  exact takeBaseDigits?_digits hdigits hrest

/-- A digit is a character of names. -/
theorem isNameLike_of_isDigit {c : Char} (hc : c.isDigit = true) : isNameLike c = true :=
  isNameLike_of_isWordChar (isWordChar_of_isDigit hc)

/-- The text of a number consists of digits. -/
theorem isDigit_of_mem_ofNat {n : Nat} {c : Char} (hc : c ∈ Text.ofNat n) : c.isDigit = true :=
  Nat.isDigit_of_mem_toDigits (by decide) (by decide) hc

/-- It is not empty. -/
theorem ofNat_ne_nil (n : Nat) : Text.ofNat n ≠ [] :=
  Nat.toDigits_ne_nil

/-- A number has a first digit. -/
theorem exists_ofNat_eq_cons (n : Nat) :
    ∃ c digits, Text.ofNat n = c :: digits ∧ c.isDigit = true := by
  obtain ⟨c, digits, hdigits⟩ := List.exists_cons_of_ne_nil (ofNat_ne_nil n)
  exact ⟨c, digits, hdigits, isDigit_of_mem_ofNat (hdigits ▸ List.mem_cons_self)⟩

/-- Only zero is written with a zero in front. -/
theorem eq_zero_of_head?_ofNat {n : Nat} (h : (Text.ofNat n).head? = some '0') : n = 0 := by
  induction n using Nat.strongRecOn with
  | ind n ih =>
      by_cases hn : n < 10
      · rw [Text.ofNat, Nat.toDigits_of_lt_base hn, List.head?_cons] at h
        exact Nat.digitChar_eq_zero.mp (Option.some.inj h)
      · have hbase : 10 ≤ n := Nat.le_of_not_lt hn
        rw [Text.ofNat, Nat.toDigits_of_base_le (by decide) hbase,
          List.head?_append, Option.or_eq_some_iff] at h
        have hempty : (Nat.toDigits 10 (n / 10)).head? ≠ none := by
          rw [ne_eq, List.head?_eq_none_iff]
          exact Nat.toDigits_ne_nil
        have hzero := ih (n / 10) (by omega) (h.resolve_right fun h => hempty h.1)
        omega

/-- It says the number. -/
theorem numberInBase_ofNat (n : Nat) : numberInBase 10 (Text.ofNat n) = n := by
  have hdigit : ∀ digits : Text, (∀ c ∈ digits, c.isDigit = true) → ∀ k,
      digits.foldl (fun n c => 10 * n + baseDigit c) k = Nat.ofDigitChars 10 digits k := by
    intro digits hdigits
    induction digits with
    | nil =>
        intro k
        rfl
    | cons c digits ih =>
        intro k
        rw [List.foldl_cons, ih (fun d hd => hdigits d (List.mem_cons_of_mem _ hd)), baseDigit,
          if_pos (hdigits c List.mem_cons_self)]
        rfl
  rw [numberInBase, hdigit _ fun c hc => isDigit_of_mem_ofNat hc]
  exact Nat.ofDigitChars_toDigits (by decide) (by decide)

/-- A delimiter ends a numeral. -/
theorem endsNumeral_of_delimited {rest : Text} (hrest : Delimited rest) :
    endsNumeral rest = true := by
  have hhead : rest.head?.any isNameLike = false := by
    cases rest with
    | nil => rfl
    | cons c rest => exact isNameLike_of_mem_delimiters (hrest c rfl)
  rw [endsNumeral, hhead]
  exact Bool.or_true _

/-- What stands behind the ASCII characters of a number: nothing, a delimiter, or a character
outside ASCII. -/
def Bounded (rest : Text) : Prop :=
  ∀ c, rest.head? = some c → c ∈ delimiters ∨ 0x80 ≤ c.toNat

/-- A delimiter bounds what stands in front of it. -/
theorem Delimited.bounded {rest : Text} (h : Delimited rest) : Bounded rest :=
  fun c hc => .inl (h c hc)

/-- What bounds a numeral begins with no other ASCII character than a delimiter. -/
theorem Bounded.head?_ne {rest : Text} (h : Bounded rest) {d : Char} (hd : d ∉ delimiters)
    (hascii : d.toNat < 0x80) : rest.head? ≠ some d := by
  intro hhead
  rcases h d hhead with hmem | hle
  · exact hd hmem
  · exact Nat.not_le.mpr hascii hle

/-- The digits of other scripts are none here. -/
theorem isDigit_of_not_ascii {c : Char} (hc : 0x80 ≤ c.toNat) : c.isDigit = false := by
  refine Bool.eq_false_iff.mpr fun hdigit => ?_
  have hbounds := toNat_of_isDigit hdigit
  omega

/-- What bounds a numeral ends its digits. -/
theorem Bounded.endsDigits {rest : Text} (h : Bounded rest) : EndsDigits rest := by
  intro c hc
  refine ⟨(h c hc).elim isDigit_of_mem_delimiters isDigit_of_not_ascii, ?_⟩
  rintro rfl
  exact h.head?_ne (by decide) (by decide) hc

/-- It begins no exponent. -/
theorem readExponentPart?_of_bounded {rest : Text} (hrest : Bounded rest) :
    readExponentPart? rest = some (none, rest) := by
  cases rest with
  | nil => rfl
  | cons c rest =>
      have hmark : ¬ (c = 'e' ∨ c = 'E') := by
        rintro (rfl | rfl) <;> exact hrest.head?_ne (by decide) (by decide) rfl
      rw [readExponentPart?.eq_def]
      exact if_neg hmark

/-- The number that digits alone are read as, unless there are zeros in front of others, or too many
digits. -/
def integerToken? (whole : Text) : Option Token :=
  if whole.head? = some '0' && whole.any (· != '0') then none
  else if maxIntegerDigits < whole.length && whole.any (· != '0') then none
  else some (.integer (numberInBase 10 whole))

section Digits

variable {whole rest : Text} (hne : whole ≠ []) (hdigits : ∀ c ∈ whole, c.isDigit = true)
include hne hdigits

/-- Digits alone are read as an integer, or refused. -/
theorem readDecimalNumeral?_digits (hrest : Bounded rest) :
    readDecimalNumeral? (whole ++ rest) =
      if endsNumeral rest then (integerToken? whole).map fun token => (token, rest) else none := by
  rw [readDecimalNumeral?, takeDecimal?_digits hne hdigits hrest.endsDigits]
  simp only [Option.bind_eq_bind, Option.bind_some]
  split
  · exact absurd rfl (hrest.head?_ne (d := '.') (by decide) (by decide))
  · have himaginary :
        (decide (rest.head? = some 'j') || decide (rest.head? = some 'J')) = false := by
      rw [decide_eq_false (hrest.head?_ne (by decide) (by decide)),
        decide_eq_false (hrest.head?_ne (by decide) (by decide))]
      rfl
    have hexponent : rest.head? ≠ some 'e' := hrest.head?_ne (by decide) (by decide)
    rw [readExponentPart?_of_bounded hrest, Option.bind_some]
    simp only [himaginary, Option.isSome_none, Bool.or_self, Bool.false_eq_true, if_false,
      if_neg hexponent]
    cases endsNumeral rest with
    | false => rfl
    | true =>
        simp only [Bool.not_true, Bool.false_eq_true, if_false, if_true]
        rw [integerToken?]
        split
        · rfl
        · split <;> rfl

/-- Unless the mark of a base follows, the numeral behind a digit is a decimal one. -/
theorem readNumeral?_of_digits
    (hmark : ∀ mark ∈ ['x', 'X', 'o', 'O', 'b', 'B'], rest.head? ≠ some mark) :
    readNumeral? (whole ++ rest) = readDecimalNumeral? (whole ++ rest) := by
  obtain ⟨c, others, rfl⟩ := List.exists_cons_of_ne_nil hne
  have hother : ∀ mark ∈ ['x', 'X', 'o', 'O', 'b', 'B'], ∀ s : Text,
      c :: others ++ rest ≠ '0' :: mark :: s := by
    intro mark hmem s heq
    have htail : others ++ rest = mark :: s := (List.cons.inj heq).2
    cases others with
    | nil =>
        rw [List.nil_append] at htail
        exact hmark mark hmem (htail ▸ rfl)
    | cons d others =>
        have hd : d.isDigit = true := hdigits d (List.mem_cons_of_mem _ List.mem_cons_self)
        rw [(List.cons.inj htail).1] at hd
        have hall : ['x', 'X', 'o', 'O', 'b', 'B'].all (fun d => !d.isDigit) = true := by decide
        have hnot := List.all_eq_true.mp hall mark hmem
        rw [hd] at hnot
        cases hnot
  rw [readNumeral?.eq_def]
  split
  -- a digit is no point
  case h_7 =>
    rename_i heq
    have hc : c.isDigit = true := hdigits c List.mem_cons_self
    rw [(List.cons.inj heq).1] at hc
    cases hc
  case h_8 => rfl
  all_goals
    rename_i s heq
    exact absurd heq (hother _ (by decide) s)

/-- Digits with a bound behind them are an integer, if a numeral can end there. -/
theorem readNumeral?_digits (hrest : Bounded rest) :
    readNumeral? (whole ++ rest) =
      if endsNumeral rest then (integerToken? whole).map fun token => (token, rest) else none := by
  rw [← readDecimalNumeral?_digits hne hdigits hrest]
  refine readNumeral?_of_digits hne hdigits fun mark hmark => ?_
  have hall : ['x', 'X', 'o', 'O', 'b', 'B'].all (fun mark =>
      decide (mark ∉ delimiters ∧ mark.toNat < 0x80)) = true := by
    decide
  obtain ⟨hmem, hascii⟩ := of_decide_eq_true (List.all_eq_true.mp hall mark hmark)
  exact hrest.head?_ne hmem hascii

theorem beginsNumeral_digits : beginsNumeral (whole ++ rest) = true := by
  obtain ⟨c, others, rfl⟩ := List.exists_cons_of_ne_nil hne
  have hc : c.isDigit = true := hdigits c List.mem_cons_self
  rw [List.cons_append, beginsNumeral_cons (ne_of_isNameLike (isNameLike_of_isDigit hc) (by decide)),
    hc]

end Digits

/-- The digits of a number are read as that number. -/
theorem readNumeral?_ofNat {n : Nat} (hn : (Text.ofNat n).length ≤ maxIntegerDigits) {rest : Text}
    (hrest : Delimited rest) :
    readNumeral? (Text.ofNat n ++ rest) = some (.integer n, rest) := by
  have hzero : ((Text.ofNat n).head? = some '0' && (Text.ofNat n).any (· != '0')) = false := by
    by_cases hhead : (Text.ofNat n).head? = some '0'
    · rw [eq_zero_of_head?_ofNat hhead]
      rfl
    · rw [decide_eq_false hhead, Bool.false_and]
  have htoken : integerToken? (Text.ofNat n) = some (.integer n) := by
    simp only [integerToken?, hzero, Bool.false_eq_true, if_false, Nat.not_lt.mpr hn, decide_false,
      Bool.false_and, numberInBase_ofNat]
  rw [readNumeral?_digits (ofNat_ne_nil n) (fun c hc => isDigit_of_mem_ofNat hc) hrest.bounded,
    endsNumeral_of_delimited hrest, if_pos rfl, htoken]
  rfl

/-- Where a numeral begins, the scanner reads it and goes on behind it. -/
theorem scan_numeral {s : Text} (h : beginsNumeral s = true) (n depth : Nat) :
    scan (n + 1) depth s =
      (readNumeral? s).bind fun (token, rest) => (scan n depth rest).map (token :: ·) := by
  cases s with
  | nil => cases h
  | cons c s =>
      have hc : c = '.' ∨ c.isDigit = true := by
        by_cases hdot : c = '.'
        · exact .inl hdot
        · rw [beginsNumeral_cons hdot] at h
          exact .inr h
      have hother : ∀ d : Char, d ≠ '.' → d.isDigit = false → c ≠ d := by
        rintro d hdot hdigit rfl
        rcases hc with hc | hc
        · exact hdot hc
        · rw [hdigit] at hc
          cases hc
      have hgap : isGap c = false :=
        isGap_of_ne (hother _ (by decide) (by decide)) (hother _ (by decide) (by decide))
          (hother _ (by decide) (by decide))
      rw [scan.eq_def]
      simp only
      rw [hgap, if_neg (by decide), if_neg (hother _ (by decide) (by decide)),
        if_neg (hother _ (by decide) (by decide)), if_neg (hother _ (by decide) (by decide)), h,
        if_pos rfl]
      cases readNumeral? (c :: s) with
      | none => rfl
      | some read => exact Option.map_eq_bind.symm

/-- A number at the front is one token. -/
theorem scan_ofNat {n : Nat} (hn : (Text.ofNat n).length ≤ maxIntegerDigits) {rest : Text}
    (hrest : Delimited rest) (fuel depth : Nat) :
    scan (fuel + 1) depth (Text.ofNat n ++ rest) =
      (scan fuel depth rest).map (.integer n :: ·) := by
  have hbegins : beginsNumeral (Text.ofNat n ++ rest) = true :=
    beginsNumeral_digits (ofNat_ne_nil n) fun c hc => isDigit_of_mem_ofNat hc
  rw [scan_numeral hbegins, readNumeral?_ofNat hn hrest]
  rfl

/-! ## Operators and brackets -/

/-- The number of open brackets behind a symbol. -/
def Symbol.depthBehind (s : Symbol) (depth : Nat) : Nat :=
  if s.opens then depth + 1 else if s.closes then depth - 1 else depth

/-- A symbol is read unless it opens one bracket too many, or closes one that is not open. -/
theorem BeginsPlainly.scan_symbol {c : Char} {s : Text} (h : BeginsPlainly c s)
    (hc : isNameLike c = false) (n depth : Nat) :
    scan (n + 1) depth (c :: s) =
      (symbol? (c :: s)).bind fun (symbol, rest) =>
        if symbol.opens && maxBracketDepth ≤ depth then none
        else if symbol.closes && depth = 0 then none
        else (scan n (symbol.depthBehind depth) rest).map (.symbol symbol :: ·) := by
  rw [scan.eq_def]
  simp only [h.gap, h.comment, h.line, h.joined, h.numeral, h.mark, hc, Bool.false_eq_true, if_false]
  cases symbol? (c :: s) with
  | none => rfl
  | some read =>
      obtain ⟨symbol, rest⟩ := read
      simp only [Option.bind_eq_bind, Option.bind_some, Option.map_eq_bind]
      split
      · rfl
      · split <;> rfl

/-- A delimiter that is no blank is a symbol, alone or with the character behind it. -/
theorem scan_symbol {c : Char} (hc : c ∈ delimiters) (hblank : c ≠ ' ') {s rest : Text}
    {symbol : Symbol} (hsymbol : symbol? (c :: s) = some (symbol, rest)) {depth : Nat}
    (hopens : symbol.opens = true → depth < maxBracketDepth)
    (hcloses : symbol.closes = true → 0 < depth) (n : Nat) :
    scan (n + 1) depth (c :: s) =
      (scan n (symbol.depthBehind depth) rest).map (.symbol symbol :: ·) := by
  have hother : ∀ d : Char, d ∉ delimiters → c ≠ d := by
    rintro d hd rfl
    exact hd hc
  have hplain : BeginsPlainly c s := {
    gap := isGap_of_ne hblank (hother _ (by decide)) (hother _ (by decide))
    comment := hother _ (by decide)
    line := hother _ (by decide)
    joined := hother _ (by decide)
    numeral := by rw [beginsNumeral_cons (hother _ (by decide)), isDigit_of_mem_delimiters hc]
    mark := takeTextMark?_word (List.forall_mem_nil _) (delimited_cons hc s) {} }
  have hopen : ¬ (symbol.opens && decide (maxBracketDepth ≤ depth)) = true := by
    rw [Bool.and_eq_true, decide_eq_true_eq]
    exact fun h => Nat.not_le.mpr (hopens h.1) h.2
  have hclose : ¬ (symbol.closes && decide (depth = 0)) = true := by
    rw [Bool.and_eq_true, decide_eq_true_eq]
    exact fun h => Nat.ne_of_gt (hcloses h.1) h.2
  rw [hplain.scan_symbol (isNameLike_of_mem_delimiters hc), hsymbol, Option.bind_some]
  exact (if_neg hopen).trans (if_neg hclose)

/-! ## Pieces of a text -/

/-- The front of `s`, read inside `depth` brackets, is the given tokens; the rest is inside `depth'`
brackets.  A token has a character at least. -/
structure Scans (depth : Nat) (s : Text) (tokens : List Token) (depth' : Nat) (rest : Text) :
    Prop where
  length_le : tokens.length + rest.length ≤ s.length
  exists_scan : ∀ fuel, s.length < fuel →
    ∃ fuel', rest.length < fuel' ∧
      scan fuel depth s = (scan fuel' depth' rest).map (tokens ++ ·)

namespace Scans

/-- Nothing is scanned in no step. -/
theorem refl (depth : Nat) (s : Text) : Scans depth s [] depth s where
  length_le := Nat.le_of_eq (Nat.zero_add s.length)
  exists_scan fuel hfuel := by
    refine ⟨fuel, hfuel, ?_⟩
    rw [funext List.nil_append]
    exact Option.map_id'.symm

/-- What is scanned in two steps is scanned in one. -/
theorem trans {depth depth' depth'' : Nat} {s s' s'' : Text} {tokens tokens' : List Token}
    (h : Scans depth s tokens depth' s') (h' : Scans depth' s' tokens' depth'' s'') :
    Scans depth s (tokens ++ tokens') depth'' s'' where
  length_le := by
    have hle := h.length_le
    have hle' := h'.length_le
    rw [List.length_append]
    omega
  exists_scan fuel hfuel := by
    obtain ⟨fuel', hfuel', hscan⟩ := h.exists_scan fuel hfuel
    obtain ⟨fuel'', hfuel'', hscan'⟩ := h'.exists_scan fuel' hfuel'
    refine ⟨fuel'', hfuel'', ?_⟩
    rw [hscan, hscan', Option.map_map]
    congr 1
    funext tokens''
    exact (List.append_assoc tokens tokens' tokens'').symm

/-- One step of the scanner. -/
theorem step {depth depth' : Nat} {s rest : Text} {tokens : List Token}
    (hlength : tokens.length + rest.length ≤ s.length) (hrest : rest.length < s.length)
    (hscan : ∀ n, scan (n + 1) depth s = (scan n depth' rest).map (tokens ++ ·)) :
    Scans depth s tokens depth' rest where
  length_le := hlength
  exists_scan fuel hfuel := by
    obtain ⟨n, rfl⟩ : ∃ n, fuel = n + 1 := ⟨fuel - 1, by omega⟩
    exact ⟨n, by omega, hscan n⟩

/-- A blank is no token. -/
theorem gap (depth : Nat) (rest : Text) : Scans depth (' ' :: rest) [] depth rest := by
  refine step (by simp) (Nat.lt_succ_self _) fun n => ?_
  rw [funext List.nil_append]
  exact Option.map_id'.symm

theorem gaps (depth count : Nat) (rest : Text) :
    Scans depth (List.replicate count ' ' ++ rest) [] depth rest := by
  induction count with
  | zero => exact refl depth rest
  | succ count ih => exact (gap depth _).trans ih

/-- A word is one token, whatever delimits it. -/
theorem word {c : Char} {word rest : Text} (hc : c.isDigit = false)
    (hword : ∀ d ∈ c :: word, isNameLike d = true) {token : Token}
    (htoken : wordToken? (c :: word) = some token) (hrest : Delimited rest) (depth : Nat) :
    Scans depth (c :: word ++ rest) [token] depth rest := by
  have hlength : (c :: word ++ rest).length = word.length + 1 + rest.length := by
    rw [List.length_append, List.length_cons]
  refine step (by rw [hlength, List.length_singleton]; omega) (by omega) fun n => ?_
  rw [scan_word hc hword hrest, htoken]
  rfl

/-- So is a number, unless it has too many digits. -/
theorem number {n : Nat} (hn : (Text.ofNat n).length ≤ maxIntegerDigits) {rest : Text}
    (hrest : Delimited rest) (depth : Nat) :
    Scans depth (Text.ofNat n ++ rest) [.integer n] depth rest := by
  have hlength : (Text.ofNat n ++ rest).length = (Text.ofNat n).length + rest.length :=
    List.length_append
  have hpos : 0 < (Text.ofNat n).length := Nat.length_toDigits_pos
  exact step (by rw [hlength, List.length_singleton]; omega) (by omega)
    fun fuel => scan_ofNat hn hrest fuel depth

/-- So is a symbol; it moves the depth if it is a parenthesis. -/
theorem symbol {c : Char} (hc : c ∈ delimiters) (hblank : c ≠ ' ') {s rest : Text} {symbol : Symbol}
    (hsymbol : symbol? (c :: s) = some (symbol, rest)) (hrest : rest.length ≤ s.length)
    {depth : Nat} (hopens : symbol.opens = true → depth < maxBracketDepth)
    (hcloses : symbol.closes = true → 0 < depth) :
    Scans depth (c :: s) [.symbol symbol] (symbol.depthBehind depth) rest := by
  have hlength : (c :: s).length = s.length + 1 := List.length_cons
  exact step (by rw [hlength, List.length_singleton]; omega) (by omega)
    fun n => scan_symbol hc hblank hsymbol hopens hcloses n

/-- An opening parenthesis goes one level down. -/
theorem opening {depth : Nat} (hdepth : depth < maxBracketDepth) (rest : Text) :
    Scans depth ('(' :: rest) [.symbol .openParen] (depth + 1) rest :=
  symbol (by decide) (by decide) rfl (Nat.le_refl _) (fun _ => hdepth) (fun h => by cases h)

/-- A closing parenthesis goes one level up. -/
theorem closing (depth : Nat) (rest : Text) :
    Scans (depth + 1) (')' :: rest) [.symbol .closeParen] depth rest :=
  symbol (by decide) (by decide) rfl (Nat.le_refl _) (fun h => by cases h)
    (fun _ => Nat.succ_pos depth)

/-- An operator stays on its level. -/
theorem operator {c : Char} (hc : c ∈ delimiters) (hblank : c ≠ ' ') {s rest : Text}
    {operator : Symbol} (hsymbol : symbol? (c :: s) = some (operator, rest))
    (hrest : rest.length ≤ s.length) (hopens : operator.opens = false)
    (hcloses : operator.closes = false) (depth : Nat) :
    Scans depth (c :: s) [.symbol operator] depth rest := by
  have h : Scans depth (c :: s) [.symbol operator] (operator.depthBehind depth) rest :=
    symbol hc hblank hsymbol hrest (fun h => by rw [hopens] at h; cases h)
      (fun h => by rw [hcloses] at h; cases h)
  rwa [Symbol.depthBehind, hopens, hcloses, if_neg (by decide), if_neg (by decide)] at h

/-- A text that is read to its end has these tokens. -/
theorem scan_eq {s : Text} {tokens : List Token} (h : Scans 0 s tokens 0 []) :
    scan (s.length + 1) 0 s = some tokens := by
  obtain ⟨fuel, hfuel, hscan⟩ := h.exists_scan (s.length + 1) (Nat.lt_succ_self _)
  obtain ⟨n, rfl⟩ : ∃ n, fuel = n + 1 := ⟨fuel - 1, by rw [List.length_nil] at hfuel; omega⟩
  rw [hscan]
  show some (tokens ++ []) = _
  rw [List.append_nil]

/-- What is refused is refused behind the tokens in front of it. -/
theorem scan_eq_none {depth depth' : Nat} {s rest : Text} {tokens : List Token}
    (h : Scans depth s tokens depth' rest) (hrest : ∀ n, scan n depth' rest = none) :
    scan (s.length + 1) depth s = none := by
  obtain ⟨fuel, -, hscan⟩ := h.exists_scan (s.length + 1) (Nat.lt_succ_self _)
  rw [hscan, hrest]
  rfl

end Scans

/-! ## Whole texts -/

/-- Without carriage returns line breaks stay as they are. -/
theorem unifyLineBreaks_of_not_mem {s : Text} (h : '\r' ∉ s) : unifyLineBreaks s = s := by
  induction s with
  | nil => rfl
  | cons c s ih =>
      have hc : c ≠ '\r' := fun heq => h (heq ▸ List.mem_cons_self)
      have hs : unifyLineBreaks s = s := ih fun hmem => h (List.mem_cons_of_mem _ hmem)
      rw [unifyLineBreaks.eq_def]
      split
      · rename_i heq
        exact absurd (List.cons.inj heq).1 hc
      · rename_i heq
        exact absurd (List.cons.inj heq).1 hc
      · rename_i heq
        cases heq
        rw [hs]
      · rename_i heq
        cases heq

/-- The characters that have a meaning for the lines of a text. -/
def lineChars : Text := ['\x00', '\r', '\n', '\t', '\x0c', '#', '\\']

/-- A text without line breaks, comments and joined lines is scanned as it stands. -/
theorem tokens?_eq_scan_of_not_mem {s : Text} (hs : ∀ c ∈ s, c ∉ lineChars)
    (hblank : s.head? ≠ some ' ') : tokens? s = scan (s.length + 1) 0 s := by
  have hnot : ∀ d ∈ lineChars, d ∉ s := fun d hd hmem => hs d hmem hd
  have hzero : s.contains '\x00' = false := by
    rw [List.contains_eq_mem, decide_eq_false (hnot _ (by decide))]
  have hfirst : nextToken? 0 0 false s = some s := by
    cases s with
    | nil => rfl
    | cons c s =>
        have hc : ∀ d ∈ lineChars, c ≠ d := by
          rintro d hd rfl
          exact hnot c hd List.mem_cons_self
        have hspace : c ≠ ' ' := fun heq => hblank (heq ▸ rfl)
        have hgap : isGap c = false := isGap_of_ne hspace (hc _ (by decide)) (hc _ (by decide))
        rw [nextToken?.eq_def]
        simp only [if_neg (hc '\n' (by decide)), Bool.false_eq_true, if_false,
          if_neg (hc '#' (by decide)), if_neg (hc '\x0c' (by decide)), hgap,
          if_neg (hc '\\' (by decide))]
        rfl
  rw [tokens?, hzero, unifyLineBreaks_of_not_mem (hnot _ (by decide)), hfirst]
  rfl

/-- An arithmetic text is scanned as it stands. -/
theorem tokens?_eq_scan {s : Text} (hs : ∀ c ∈ s, isNameLike c = true ∨ c ∈ delimiters)
    (hblank : s.head? ≠ some ' ') : tokens? s = scan (s.length + 1) 0 s := by
  refine tokens?_eq_scan_of_not_mem (fun c hc hline => ?_) hblank
  have hall : lineChars.all (fun c => !isNameLike c && !delimiters.contains c) = true := by decide
  have hother := List.all_eq_true.mp hall c hline
  rw [Bool.and_eq_true, Bool.not_eq_true', Bool.not_eq_true'] at hother
  rcases hs c hc with h | h
  · rw [hother.1] at h
    cases h
  · rw [← List.contains_iff_mem, hother.2] at h
    cases h

end SignalLab.Expression
