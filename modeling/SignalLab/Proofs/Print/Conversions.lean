import SignalLab.Print.Format
import SignalLab.Proofs.Fallible
import SignalLab.Proofs.Number.IntegerDoubles
import SignalLab.Proofs.Number.PlainTexts
import SignalLab.Proofs.Print.Quotes

/-!
# Conversions — fields made of arguments

A conversion makes a field of an argument that suits it (`Converts`): an integer is written by its sign
and its digits in a base, a double by its sign and its text in a style, a character by its code point,
and a text as it is or in quotes, cut to a length.  The field is then filled up to a width
(`IsFilled`).  All of this is said without computing it; the conversion of an argument has a result
exactly if the argument suits it, and then this one (`convert_eq_ok_iff`, `isFilled_iff`).
-/

namespace SignalLab.Print

open Text Fallible

/-! ## Signs and digits -/

/-- A minus sign for what is negative; otherwise a plus sign or a blank, if a flag asks for it. -/
inductive IsSign (flags : Flags) (negative : Bool) : Text → Prop
  | minus (below : negative = true) : IsSign flags negative ['-']
  | plus (positive : negative = false) (asked : flags.plus = true) : IsSign flags negative ['+']
  | blank (positive : negative = false) (other : flags.plus = false) (asked : flags.blank = true) :
      IsSign flags negative [' ']
  | none (positive : negative = false) (plus : flags.plus = false) (blank : flags.blank = false) :
      IsSign flags negative []

/-- The digits of a number in a base. -/
def digitsIn (base : ℕ) (upper : Bool) (n : ℕ) : Text :=
  if upper then (Nat.toDigits base n).map Char.toUpper else Nat.toDigits base n

/-- Digits with so many zeros in front that there are at least as many digits as asked for. -/
inductive IsNumeral (base : ℕ) (upper : Bool) (count n : ℕ) : Text → Prop
  | mk {zeros : ℕ} (full : zeros + (digitsIn base upper n).length =
      max count (digitsIn base upper n).length) :
      IsNumeral base upper count n (List.replicate zeros '0' ++ digitsIn base upper n)

/-! ## Conversions -/

/-- The conversions of integers: whether doubles are cut to integers for them, the base, what `#` puts
in front, and whether the digits are upper-case letters. -/
inductive OfIntegers : Char → Bool → ℕ → Text → Bool → Prop
  | d : OfIntegers 'd' true 10 [] false
  | i : OfIntegers 'i' true 10 [] false
  | u : OfIntegers 'u' true 10 [] false
  | o : OfIntegers 'o' false 8 ['0', 'o'] false
  | x : OfIntegers 'x' false 16 ['0', 'x'] false
  | X : OfIntegers 'X' false 16 ['0', 'X'] true

/-- The conversions of doubles: the style, and whether it is in upper-case letters. -/
inductive OfReals : Char → Double.Style → Bool → Prop
  | f : OfReals 'f' .fixed false
  | F : OfReals 'F' .fixed true
  | e : OfReals 'e' .scientific false
  | E : OfReals 'E' .scientific true
  | g : OfReals 'g' .general false
  | G : OfReals 'G' .general true

/-- The integer that an argument is, or that a double is cut to. -/
inductive IsInteger (cut : Bool) : Argument → ℤ → Prop
  | integer (n : ℤ) : IsInteger cut (.integer n) n
  | real {x : Float} {v : ℚ} {n : ℤ} (allowed : cut = true) (value : Double.value? x = some v)
      (truncated : Double.IsTruncated v n) : IsInteger cut (.real x) n

/-- The double that an argument is, or that is nearest to an integer and has its sign. -/
inductive IsReal : Argument → Float → Prop
  | integer {n : ℤ} {x : Float} {v : ℚ} (value : Double.value? x = some v)
      (nearest : Double.IsNearest n v) (sign : Double.isNegative x = decide (n < 0)) :
      IsReal (.integer n) x
  | real (x : Float) : IsReal (.real x) x

/-- The code point of a symbol. -/
def Symbol.codePoint : Symbol → ℕ
  | .char c => c.toNat
  | .surrogate k => 0xD800 + k

/-- The symbol that an argument is: a text of one character, or a code point. -/
inductive IsSymbol : Argument → Symbol → Prop
  | text (c : Char) : IsSymbol (.text [c]) (.char c)
  | codePoint (symbol : Symbol) : IsSymbol (.integer symbol.codePoint) symbol

/-- How a conversion of texts shows an argument.  Only texts are shown differently: as they are, in
quotes, or in quotes and ASCII. -/
inductive IsShown : Char → Argument → Text → Prop
  | integer {letter : Char} (among : letter ∈ ['s', 'r', 'a']) (n : ℤ) :
      IsShown letter (.integer n) ((if n < 0 then ['-'] else []) ++ Nat.toDigits 10 n.natAbs)
  | real {letter : Char} {x : Float} {s : Text} (among : letter ∈ ['s', 'r', 'a'])
      (text : Double.IsText x s) : IsShown letter (.real x) s
  | plain (s : Text) : IsShown 's' (.text s) s
  | quoted {s t : Text} (quoted : IsQuoted false s t) : IsShown 'r' (.text s) t
  | ascii {s t : Text} (quoted : IsQuoted true s t) : IsShown 'a' (.text s) t

/-- The places of a double: six unless a precision says otherwise.  The scientific style has one digit
more, and it has no places at all if there would be `2 ^ 31` digits. -/
def places (style : Double.Style) (precision : Option ℕ) : ℕ :=
  if style = .scientific ∧ precision.any (fun p => 2 ^ 31 ≤ p + 1) = true then 0
  else precision.getD 6

/-- What a conversion makes of an argument that suits it. -/
inductive Converts (flags : Flags) (precision : Option ℕ) : Char → Argument → Field → Prop
  | integer {letter : Char} {cut upper : Bool} {base : ℕ} {mark sign digits : Text} {a : Argument}
      {n : ℤ} (conversion : OfIntegers letter cut base mark upper) (value : IsInteger cut a n)
      (small : precision.getD 0 + 3 < 2 ^ 31) (signed : IsSign flags (n < 0) sign)
      (numeral : IsNumeral base upper (precision.getD 0) n.natAbs digits) :
      Converts flags precision letter a
        ⟨sign, if flags.alternate then mark else [], symbols digits, true⟩
  | real {letter : Char} {upper : Bool} {style : Double.Style} {sign s : Text} {a : Argument}
      {x : Float} (conversion : OfReals letter style upper) (value : IsReal a x)
      (signed : IsSign flags (Double.isNegative x && !x.isNaN) sign)
      (formatted : Double.IsFormatted style (places style precision) flags.alternate x s) :
      Converts flags precision letter a
        ⟨sign, [], symbols (if upper then s.map Char.toUpper else s), true⟩
  | character {a : Argument} {symbol : Symbol} (value : IsSymbol a symbol) :
      Converts flags precision 'c' a ⟨[], [], [symbol], false⟩
  | text {letter : Char} {a : Argument} {s : Text} (shown : IsShown letter a s) :
      Converts flags precision letter a
        ⟨[], [], symbols (s.take (precision.getD s.length)), false⟩

/-! ## Widths -/

/-- The number of symbols of a field. -/
def Field.size (f : Field) : ℕ :=
  f.sign.length + f.mark.length + f.body.length

/-- A field with as many blanks or zeros as it lacks: blanks behind it, zeros in a number behind its
sign and mark, or blanks in front. -/
inductive IsFilled (flags : Flags) (width : ℕ) (f : Field) : List Symbol → Prop
  | left {fill : ℕ} (full : fill + f.size = max width f.size) (left : flags.left = true) :
      IsFilled flags width f
        (symbols f.sign ++ symbols f.mark ++ f.body ++ List.replicate fill (.char ' '))
  | zeros {fill : ℕ} (full : fill + f.size = max width f.size) (right : flags.left = false)
      (zero : flags.zero = true) (number : f.isNumber = true) :
      IsFilled flags width f
        (symbols f.sign ++ symbols f.mark ++ List.replicate fill (.char '0') ++ f.body)
  | right {fill : ℕ} (full : fill + f.size = max width f.size) (right : flags.left = false)
      (blank : flags.zero = false ∨ f.isNumber = false) :
      IsFilled flags width f
        (List.replicate fill (.char ' ') ++ symbols f.sign ++ symbols f.mark ++ f.body)

/-! ## Signs and digits are found -/

variable {flags : Flags}

/-- A number has one sign, or none. -/
theorem isSign_iff {negative : Bool} {s : Text} :
    IsSign flags negative s ↔ s = signText flags negative := by
  rw [signText]
  constructor
  · rintro (hbelow | ⟨hpositive, hplus⟩ | ⟨hpositive, hplus, hblank⟩ | ⟨hpositive, hplus, hblank⟩)
    · rw [hbelow]
      rfl
    · rw [hpositive, hplus]
      rfl
    · rw [hpositive, hplus, hblank]
      rfl
    · rw [hpositive, hplus, hblank]
      rfl
  · rintro rfl
    cases hnegative : negative with
    | true => exact .minus rfl
    | false =>
        cases hplus : flags.plus with
        | true => exact .plus rfl hplus
        | false =>
            cases hblank : flags.blank with
            | true => exact .blank rfl hplus hblank
            | false => exact .none rfl hplus hblank

/-- An integer has one numeral of a least number of digits. -/
theorem isNumeral_iff {base count n : ℕ} {upper : Bool} {s : Text} :
    IsNumeral base upper count n s ↔
      s = List.replicate (count - (digitsIn base upper n).length) '0' ++ digitsIn base upper n := by
  constructor
  · rintro ⟨hfull⟩
    rename_i zeros
    have hzeros : zeros = count - (digitsIn base upper n).length := by omega
    rw [hzeros]
  · rintro rfl
    exact .mk (by omega)

/-! ## Arguments that suit -/

/-- An argument is an integer when it is cut to one. -/
theorem truncated_eq_ok_iff {a : Argument} {n : ℤ} : a.truncated = .ok n ↔ IsInteger true a n := by
  cases a with
  | integer k =>
      constructor
      · rintro ⟨⟩
        exact .integer n
      · rintro ⟨⟩
        rfl
  | real x =>
      constructor
      · intro h
        obtain ⟨v, hvalue, htruncated⟩ := Double.toInteger_towardZero_iff.mp (mapError_ok_iff.mp h)
        exact .real rfl hvalue htruncated
      · rintro (_ | ⟨-, hvalue, htruncated⟩)
        exact mapError_ok_iff.mpr (Double.toInteger_towardZero_iff.mpr ⟨_, hvalue, htruncated⟩)
  | text s => exact iff_of_false (fun h => by cases h) fun h => by cases h

/-- Only an integer is one for the other bases. -/
theorem exact_eq_ok_iff {a : Argument} {n : ℤ} : a.exact = .ok n ↔ IsInteger false a n := by
  cases a with
  | integer k =>
      constructor
      · rintro ⟨⟩
        exact .integer n
      · rintro ⟨⟩
        rfl
  | real x =>
      refine iff_of_false (fun h => by cases h) ?_
      rintro (_ | ⟨⟨⟩, -, -⟩)
  | text s => exact iff_of_false (fun h => by cases h) fun h => by cases h

/-- An argument is a double when an integer is rounded to one. -/
theorem toReal_eq_ok_iff {a : Argument} {x : Float} : a.toReal = .ok x ↔ IsReal a x := by
  cases a with
  | integer n =>
      constructor
      · intro h
        obtain ⟨v, hv, hnearest, hsign⟩ := Double.ofInt_eq_ok_iff.mp (mapError_ok_iff.mp h)
        exact .integer hv hnearest hsign
      · rintro ⟨hv, hnearest, hsign⟩
        exact mapError_ok_iff.mpr (Double.ofInt_eq_ok_iff.mpr ⟨_, hv, hnearest, hsign⟩)
  | real y =>
      constructor
      · rintro ⟨⟩
        exact .real x
      · rintro ⟨⟩
        rfl
  | text s => exact iff_of_false (fun h => by cases h) fun h => by cases h

/-- A code point has one symbol, unless it is beyond the last. -/
theorem ofCodePoint?_eq_some_iff {n : ℕ} {symbol : Symbol} :
    Symbol.ofCodePoint? n = some symbol ↔ symbol.codePoint = n := by
  rw [Symbol.ofCodePoint?]
  constructor
  · intro h
    split at h
    · cases h
      rfl
    · split at h
      · rename_i hsurrogate
        cases h
        show 0xD800 + (n - 0xD800) = n
        omega
      · cases h
  · rintro rfl
    cases symbol with
    | char c => exact dif_pos (show (Symbol.char c).codePoint.isValidChar from c.valid)
    | surrogate k =>
        have hk := k.isLt
        have hcode : (Symbol.surrogate k).codePoint = 0xD800 + k := rfl
        have hinvalid : ¬ (Symbol.surrogate k).codePoint.isValidChar := by
          rw [hcode]
          rintro (h | h) <;> omega
        have hbetween : 0xD800 ≤ (Symbol.surrogate k).codePoint ∧
            (Symbol.surrogate k).codePoint < 0xE000 := by omega
        rw [dif_neg hinvalid, dif_pos hbetween]
        exact congrArg some (congrArg Symbol.surrogate (Fin.ext (Nat.add_sub_cancel_left ..)))

/-- An argument is one symbol. -/
theorem symbol_eq_ok_iff {a : Argument} {symbol : Symbol} :
    a.symbol = .ok symbol ↔ IsSymbol a symbol := by
  constructor
  · intro h
    rw [Argument.symbol.eq_def] at h
    split at h
    · rename_i n
      split at h
      · cases h
      · rename_i hnonneg
        split at h
        · rename_i symbol' hsymbol
          cases h
          have hcode := ofCodePoint?_eq_some_iff.mp hsymbol
          obtain rfl : n = symbol.codePoint := by omega
          exact .codePoint symbol
        · cases h
    · cases h
      exact .text _
    · cases h
  · rintro (c | _)
    · rfl
    · have hsymbol := ofCodePoint?_eq_some_iff.mpr (rfl : symbol.codePoint = _)
      rw [Argument.symbol, if_neg (by omega), Int.toNat_natCast, hsymbol]

/-! ## Fields are found -/

variable {precision : Option ℕ} {letter : Char} {a : Argument} {field : Field}

/-- An integer of a base is written, unless the precision is too large. -/
theorem integerField_eq_ok_iff {base : ℕ} {upper : Bool} {mark : Text} {n : ℤ} :
    integerField flags precision mark (digitsIn base upper) n = .ok field ↔
      precision.getD 0 + 3 < 2 ^ 31 ∧ ∃ sign digits, IsSign flags (n < 0) sign ∧
        IsNumeral base upper (precision.getD 0) n.natAbs digits ∧
        field = ⟨sign, if flags.alternate then mark else [], symbols digits, true⟩ := by
  simp only [isSign_iff, isNumeral_iff]
  rw [integerField]
  split
  · rename_i hlarge
    have hbeyond : 2147483644 < precision.getD 0 := hlarge
    exact iff_of_false (fun h => by cases h) fun h => by omega
  · rename_i hsmall
    have hwithin : precision.getD 0 ≤ 2147483644 := Nat.le_of_not_lt hsmall
    constructor
    · rintro ⟨⟩
      exact ⟨by omega, _, _, rfl, rfl, rfl⟩
    · rintro ⟨-, _, _, rfl, rfl, rfl⟩
      rfl

/-- The places are as many as the precision says, or the standard number. -/
theorem places_eq (style : Double.Style) (precision : Option ℕ) :
    realPrecision style precision = places style precision := by
  have hdefault : ¬ 2 ^ 31 ≤ 6 + 1 := by decide
  have hlarge : ∀ p : ℕ, 2147483647 < p + 1 ↔ 2 ^ 31 ≤ p + 1 := by omega
  rw [realPrecision, places]
  cases precision with
  | none => simp [defaultPrecision, maxPrecision]
  | some p => simp [maxPrecision, hlarge]

/-- A double is written in one way in a style. -/
theorem realField_eq_iff {style : Double.Style} {upper : Bool} {x : Float} :
    realField flags precision style upper x = field ↔
      ∃ sign s, IsSign flags (Double.isNegative x && !x.isNaN) sign ∧
        Double.IsFormatted style (places style precision) flags.alternate x s ∧
        field = ⟨sign, [], symbols (if upper then s.map Char.toUpper else s), true⟩ := by
  simp only [isSign_iff, Double.isFormatted_iff]
  rw [realField, places_eq]
  constructor
  · rintro rfl
    exact ⟨_, _, rfl, rfl, rfl⟩
  · rintro ⟨_, _, rfl, rfl, rfl⟩
    rfl

/-! ## Conversions are found -/

/-- The letter of a conversion of integers says all about it. -/
theorem converts_integer_iff {cut upper : Bool} {base : ℕ} {mark : Text}
    (hconversion : OfIntegers letter cut base mark upper) :
    Converts flags precision letter a field ↔
      ∃ n, IsInteger cut a n ∧ precision.getD 0 + 3 < 2 ^ 31 ∧
        ∃ sign digits, IsSign flags (n < 0) sign ∧
          IsNumeral base upper (precision.getD 0) n.natAbs digits ∧
          field = ⟨sign, if flags.alternate then mark else [], symbols digits, true⟩ := by
  constructor
  · rintro (⟨hother, hvalue, hsmall, hsign, hnumeral⟩ | ⟨hreal, -, -, -⟩ | - | hshown)
    · cases hconversion <;> cases hother <;>
        exact ⟨_, hvalue, hsmall, _, _, hsign, hnumeral, rfl⟩
    · cases hconversion <;> cases hreal
    · cases hconversion
    · cases hconversion <;> cases hshown <;> contradiction
  · rintro ⟨n, hvalue, hsmall, sign, digits, hsign, hnumeral, rfl⟩
    exact .integer hconversion hvalue hsmall hsign hnumeral

/-- So does the letter of a conversion of doubles. -/
theorem converts_real_iff {style : Double.Style} {upper : Bool}
    (hconversion : OfReals letter style upper) :
    Converts flags precision letter a field ↔
      ∃ x, IsReal a x ∧ ∃ sign s, IsSign flags (Double.isNegative x && !x.isNaN) sign ∧
        Double.IsFormatted style (places style precision) flags.alternate x s ∧
        field = ⟨sign, [], symbols (if upper then s.map Char.toUpper else s), true⟩ := by
  constructor
  · rintro (⟨hinteger, -, -, -, -⟩ | ⟨hother, hvalue, hsign, hformatted⟩ | - | hshown)
    · cases hconversion <;> cases hinteger
    · cases hconversion <;> cases hother <;> exact ⟨_, hvalue, _, _, hsign, hformatted, rfl⟩
    · cases hconversion
    · cases hconversion <;> cases hshown <;> contradiction
  · rintro ⟨x, hvalue, sign, s, hsign, hformatted, rfl⟩
    exact .real hconversion hvalue hsign hformatted

/-- A character is written as its symbol. -/
theorem converts_character_iff :
    Converts flags precision 'c' a field ↔
      ∃ symbol, IsSymbol a symbol ∧ field = ⟨[], [], [symbol], false⟩ := by
  constructor
  · rintro (⟨hinteger, -, -, -, -⟩ | ⟨hreal, -, -, -⟩ | hvalue | hshown)
    · cases hinteger
    · cases hreal
    · exact ⟨_, hvalue, rfl⟩
    · cases hshown <;> contradiction
  · rintro ⟨symbol, hvalue, rfl⟩
    exact .character hvalue

/-- Conversions of texts show every argument. -/
theorem converts_text_iff (hletter : letter ∈ ['s', 'r', 'a']) {shown : Text}
    (hshown : ∀ s, IsShown letter a s ↔ s = shown) :
    Converts flags precision letter a field ↔ field = textField precision shown := by
  have hfield : textField precision shown =
      ⟨[], [], symbols (shown.take (precision.getD shown.length)), false⟩ := by
    cases precision with
    | none => simp [textField]
    | some p => rfl
  rw [hfield]
  constructor
  · rintro (⟨hinteger, -, -, -, -⟩ | ⟨hreal, -, -, -⟩ | - | hother)
    · cases hinteger <;> contradiction
    · cases hreal <;> contradiction
    · contradiction
    · rw [(hshown _).mp hother]
  · rintro rfl
    exact .text ((hshown shown).mpr rfl)

/-- A number is shown in one way by all conversions of texts. -/
theorem isShown_number_iff (hletter : letter ∈ ['s', 'r', 'a']) (hnumber : ∀ t, a ≠ .text t)
    {s : Text} : IsShown letter a s ↔ s = a.display := by
  cases a with
  | integer n =>
      have hdisplay : Text.ofInt n = (if n < 0 then ['-'] else []) ++ Nat.toDigits 10 n.natAbs := by
        cases n with
        | ofNat k =>
            have hnonneg : ¬ Int.ofNat k < 0 := Int.not_lt.mpr (Int.natCast_nonneg k)
            rw [if_neg hnonneg]
            rfl
        | negSucc k =>
            rw [if_pos (Int.negSucc_lt_zero k)]
            rfl
      rw [Argument.display, hdisplay]
      constructor
      · rintro (_ | _)
        rfl
      · rintro rfl
        exact .integer hletter n
  | real x =>
      rw [Argument.display, ← Double.isText_iff]
      constructor
      · rintro (_ | ⟨-, htext⟩)
        exact htext
      · exact .real hletter
  | text t => exact absurd rfl (hnumber t)

/-- A conversion of texts shows an argument in one way if it shows a text in one way. -/
theorem isShown_iff_inspect (hletter : letter ∈ ['s', 'r', 'a']) {quote : Text → Text}
    (htext : ∀ {t s}, IsShown letter (.text t) s ↔ s = quote t) {s : Text} :
    IsShown letter a s ↔ s = a.inspect quote := by
  cases a with
  | text t => exact htext
  | integer n => exact isShown_number_iff hletter fun t => by rintro ⟨⟩
  | real x => exact isShown_number_iff hletter fun t => by rintro ⟨⟩

/-- An argument is shown as it is displayed. -/
theorem isShown_iff_display {s : Text} : IsShown 's' a s ↔ s = a.display := by
  have hdisplay : a.inspect id = a.display := by cases a <;> rfl
  rw [← hdisplay]
  refine isShown_iff_inspect (by decide) fun {t s} => ⟨?_, ?_⟩
  · rintro (_ | _ | _)
    rfl
  · rintro rfl
    exact .plain _

/-- Only a text is shown in quotes. -/
theorem isShown_iff_quoted {s : Text} : IsShown 'r' a s ↔ s = a.inspect Text.quoted := by
  refine isShown_iff_inspect (by decide) fun {t s} => ?_
  rw [← isQuoted_false_iff]
  constructor
  · rintro (_ | _ | _ | hquoted)
    exact hquoted
  · exact .quoted

/-- Only a text is shown in quotes and in ASCII. -/
theorem isShown_iff_ascii {s : Text} : IsShown 'a' a s ↔ s = a.inspect Text.quotedAscii := by
  refine isShown_iff_inspect (by decide) fun {t s} => ?_
  rw [← isQuoted_true_iff]
  constructor
  · rintro (_ | _ | _ | _ | hquoted)
    exact hquoted
  · exact .ascii

/-- An integer that suits a conversion of integers is written by it. -/
theorem bind_integerField_eq_ok_iff {cut upper : Bool} {base : ℕ} {mark : Text}
    (hconversion : OfIntegers letter cut base mark upper) {value : Except Error ℤ}
    (hvalue : ∀ {n}, value = .ok n ↔ IsInteger cut a n) :
    value >>= integerField flags precision mark (digitsIn base upper) = .ok field ↔
      Converts flags precision letter a field := by
  rw [converts_integer_iff hconversion, bind_ok_iff]
  exact exists_congr fun n => and_congr hvalue integerField_eq_ok_iff

/-- A double that suits a conversion of doubles is written by it. -/
theorem map_realField_eq_ok_iff {style : Double.Style} {upper : Bool}
    (hconversion : OfReals letter style upper) :
    a.toReal.map (realField flags precision style upper) = .ok field ↔
      Converts flags precision letter a field := by
  rw [converts_real_iff hconversion, map_ok_iff]
  exact exists_congr fun x => and_congr toReal_eq_ok_iff realField_eq_iff

/-- A letter without a conversion. -/
theorem not_converts (h : letter ∉ ['d', 'i', 'u', 'o', 'x', 'X', 'f', 'F', 'e', 'E', 'g', 'G', 'c',
    's', 'r', 'a']) : ¬ Converts flags precision letter a field := by
  rintro (⟨hinteger, -, -, -, -⟩ | ⟨hreal, -, -, -⟩ | - | hshown)
  · cases hinteger <;> exact h (by decide)
  · cases hreal <;> exact h (by decide)
  · exact h (by decide)
  · cases hshown with
    | integer among => exact h (by simp at among ⊢; tauto)
    | real among => exact h (by simp at among ⊢; tauto)
    | plain => exact h (by decide)
    | quoted => exact h (by decide)
    | ascii => exact h (by decide)

/-- An argument is converted exactly if it suits the conversion, and to what the conversion makes of
it. -/
theorem convert_eq_ok_iff :
    convert flags precision letter a = .ok field ↔ Converts flags precision letter a field := by
  rw [convert.eq_def]
  split
  · exact bind_integerField_eq_ok_iff .d truncated_eq_ok_iff
  · exact bind_integerField_eq_ok_iff .i truncated_eq_ok_iff
  · exact bind_integerField_eq_ok_iff .u truncated_eq_ok_iff
  · exact bind_integerField_eq_ok_iff .o exact_eq_ok_iff
  · exact bind_integerField_eq_ok_iff .x exact_eq_ok_iff
  · exact bind_integerField_eq_ok_iff .X exact_eq_ok_iff
  · exact map_realField_eq_ok_iff .f
  · exact map_realField_eq_ok_iff .F
  · exact map_realField_eq_ok_iff .e
  · exact map_realField_eq_ok_iff .E
  · exact map_realField_eq_ok_iff .g
  · exact map_realField_eq_ok_iff .G
  · rw [converts_character_iff, map_ok_iff]
    exact exists_congr fun symbol => and_congr symbol_eq_ok_iff eq_comm
  · rw [converts_text_iff (by decide) fun _ => isShown_iff_display, Except.ok.injEq, eq_comm]
  · rw [converts_text_iff (by decide) fun _ => isShown_iff_quoted, Except.ok.injEq, eq_comm]
  · rw [converts_text_iff (by decide) fun _ => isShown_iff_ascii, Except.ok.injEq, eq_comm]
  · refine iff_of_false (fun h => by cases h) (not_converts ?_)
    simp only [List.mem_cons, List.not_mem_nil, or_false, not_or]
    refine ⟨?_, ?_, ?_, ?_, ?_, ?_, ?_, ?_, ?_, ?_, ?_, ?_, ?_, ?_, ?_, ?_⟩ <;> assumption

/-! ## Fields are filled up -/

/-- A field is filled up in one way. -/
theorem isFilled_iff {width : ℕ} {w : List Symbol} :
    IsFilled flags width field w ↔ w = field.pad flags width := by
  have hblanks : ∀ k, symbols (List.replicate k ' ') = List.replicate k (.char ' ') :=
    fun k => List.map_replicate
  have hzeros : ∀ k, symbols (List.replicate k '0') = List.replicate k (.char '0') :=
    fun k => List.map_replicate
  -- a field is filled up by what it is short of the width
  have hfill : ∀ {fill : ℕ}, fill + field.size = max width field.size →
      fill = width - (field.sign.length + field.mark.length + field.body.length) := by
    intro fill hfull
    rw [Field.size] at hfull
    omega
  have hfull : width - (field.sign.length + field.mark.length + field.body.length) + field.size =
      max width field.size := by
    rw [Field.size]
    omega
  rw [Field.pad, symbols_append, hblanks, hzeros]
  constructor
  · rintro (⟨hfull, hleft⟩ | ⟨hfull, hright, hzero, hnumber⟩ | ⟨hfull, hright, hblank⟩)
    · rw [hfill hfull, if_pos hleft]
    · rw [hfill hfull, if_neg (by rw [hright]; decide), if_pos (by rw [hzero, hnumber]; decide)]
    · have hnot : ¬ (flags.zero && field.isNumber) = true := by
        rcases hblank with h | h <;> simp [h]
      rw [hfill hfull, if_neg (by rw [hright]; decide), if_neg hnot]
      simp only [List.append_assoc]
  · rintro rfl
    split
    · rename_i hleft
      exact .left hfull hleft
    · rename_i hright
      split
      · rename_i hzeros
        rw [Bool.and_eq_true] at hzeros
        exact .zeros hfull (Bool.eq_false_iff.mpr hright) hzeros.1 hzeros.2
      · rename_i hzeros
        rw [Bool.and_eq_true, not_and_or, Bool.not_eq_true, Bool.not_eq_true] at hzeros
        rw [← List.append_assoc]
        exact .right hfull (Bool.eq_false_iff.mpr hright) hzeros

end SignalLab.Print
