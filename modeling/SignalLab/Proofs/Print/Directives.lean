import Mathlib.Algebra.Group.Nat.Defs
import Mathlib.Data.Bool.AllAny
import SignalLab.Print.Directive
import SignalLab.Proofs.Text.Names

/-!
# Directives — their notation, and how they are read

A directive is a percent sign, flags, a width, a precision, a size letter and the letter of a
conversion, one behind the other (`IsDirective`).  Each part is said here by the texts that it can be,
and no two parts can be mistaken for each other: a width does not begin with a zero, which is a flag,
and no conversion has a letter that another part could go on with.  Reading a directive therefore finds
the parts that it is made of (`takeDirective_of_isDirective`), and what is read without an error is made
of them (`exists_isDirective`).
-/

namespace SignalLab.Print

open Text

/-! ## Notation -/

/-- Characters that are flags, in any order and number, and the flags they stand for. -/
structure AreFlags (s : Text) (flags : Flags) : Prop where
  chars : ∀ c ∈ s, c ∈ ['-', '+', ' ', '#', '0']
  left : flags.left = s.contains '-'
  plus : flags.plus = s.contains '+'
  blank : flags.blank = s.contains ' '
  alternate : flags.alternate = s.contains '#'
  zero : flags.zero = s.contains '0'

/-- A width is nothing, a star, or a number that does not begin with zero. -/
inductive IsWidth : Text → Amount → Prop
  | absent : IsWidth [] .absent
  | star : IsWidth ['*'] .argument
  | digits {c : Char} {s : Text} (digits : ∀ d ∈ c :: s, d.isDigit = true) (first : c ≠ '0')
      (small : Nat.ofDigitChars 10 (c :: s) 0 < 2 ^ 63) :
      IsWidth (c :: s) (.given (Nat.ofDigitChars 10 (c :: s) 0))

/-- A precision is nothing, or a point and a star or a number; no digits are zero. -/
inductive IsPrecision : Text → Amount → Prop
  | absent : IsPrecision [] .absent
  | star : IsPrecision ['.', '*'] .argument
  | digits {s : Text} (digits : ∀ d ∈ s, d.isDigit = true)
      (small : Nat.ofDigitChars 10 s 0 < 2 ^ 31) :
      IsPrecision ('.' :: s) (.given (Nat.ofDigitChars 10 s 0))

/-- A size has no meaning. -/
inductive IsSize : Text → Prop
  | absent : IsSize []
  | letter {c : Char} (letter : c ∈ ['h', 'l', 'L']) : IsSize [c]

/-- The letters of the conversions. -/
def letters : List Char :=
  ['d', 'i', 'u', 'o', 'x', 'X', 'f', 'F', 'e', 'E', 'g', 'G', 'c', 's', 'r', 'a']

/-- The text of a directive, behind its percent sign. -/
inductive IsDirective : Text → Directive → Prop
  | mk {flagsText widthText precisionText sizeText : Text} {flags : Flags} {width precision : Amount}
      {letter : Char} (areFlags : AreFlags flagsText flags) (isWidth : IsWidth widthText width)
      (isPrecision : IsPrecision precisionText precision) (isSize : IsSize sizeText)
      (isLetter : letter ∈ letters) :
      IsDirective (flagsText ++ (widthText ++ (precisionText ++ (sizeText ++ [letter]))))
        ⟨flags, width, precision, some letter⟩

/-! ## Flags -/

/-- Whether a character is a flag. -/
def isFlag (c : Char) : Bool :=
  ['-', '+', ' ', '#', '0'].contains c

/-- The flags with those that characters stand for. -/
def Flags.adding (flags : Flags) (s : Text) : Flags where
  left := flags.left || s.contains '-'
  plus := flags.plus || s.contains '+'
  blank := flags.blank || s.contains ' '
  alternate := flags.alternate || s.contains '#'
  zero := flags.zero || s.contains '0'

/-- Flags are added to one another, in any order and more than once. -/
theorem areFlags_iff {s : Text} {flags : Flags} :
    AreFlags s flags ↔ (∀ c ∈ s, isFlag c = true) ∧ flags = Flags.adding {} s := by
  have hflag : ∀ c, isFlag c = true ↔ c ∈ ['-', '+', ' ', '#', '0'] := fun c =>
    List.contains_iff_mem
  constructor
  · intro h
    refine ⟨fun c hc => (hflag c).mpr (h.chars c hc), ?_⟩
    obtain ⟨left, plus, blank, alternate, zero⟩ := flags
    obtain ⟨-, rfl, rfl, rfl, rfl, rfl⟩ := h
    rfl
  · rintro ⟨hchars, rfl⟩
    exact ⟨fun c hc => (hflag c).mp (hchars c hc), rfl, rfl, rfl, rfl, rfl⟩

/-- A character is a flag or sets none. -/
theorem set?_eq (flags : Flags) (c : Char) :
    flags.set? c = if isFlag c then some (flags.adding [c]) else none := by
  rw [Flags.set?]
  by_cases hleft : c = '-'
  · subst hleft
    simp [isFlag, Flags.adding]
  by_cases hplus : c = '+'
  · subst hplus
    simp [isFlag, Flags.adding]
  by_cases hblank : c = ' '
  · subst hblank
    simp [isFlag, Flags.adding]
  by_cases halternate : c = '#'
  · subst halternate
    simp [isFlag, Flags.adding]
  by_cases hzero : c = '0'
  · subst hzero
    simp [isFlag, Flags.adding]
  · simp [isFlag, *]

/-- Flags are added from left to right. -/
theorem adding_cons (flags : Flags) (c : Char) (s : Text) :
    (flags.adding [c]).adding s = flags.adding (c :: s) := by
  simp [Flags.adding, Bool.or_assoc]

/-- All flags at the front are taken, and no others. -/
theorem takeFlags_eq (flags : Flags) (s : Text) :
    takeFlags flags s = (flags.adding (s.takeWhile isFlag), s.dropWhile isFlag) := by
  induction s generalizing flags with
  | nil => simp [takeFlags, Flags.adding]
  | cons c s ih =>
      rw [takeFlags, set?_eq]
      by_cases hc : isFlag c = true
      · rw [if_pos hc, List.takeWhile_cons_of_pos hc, List.dropWhile_cons_of_pos hc]
        show takeFlags (flags.adding [c]) s = _
        rw [ih, adding_cons]
      · rw [if_neg hc, List.takeWhile_cons_of_neg hc, List.dropWhile_cons_of_neg hc]
        simp [Flags.adding]

/-! ## Amounts -/

/-- The digits of an amount say their number. -/
theorem decimalValue_eq (digits : Text) : decimalValue digits = Nat.ofDigitChars 10 digits 0 := by
  rw [Nat.ofDigitChars_eq_foldl]
  rfl

section Amounts

variable {limit : Nat} {ifAbsent amount : Amount} {digits rest : Text}

/-- A star stands for an argument. -/
theorem takeAmount_star (rest : Text) : takeAmount limit ifAbsent ('*' :: rest) = (.argument, rest) :=
  if_pos rfl

/-- Digits are taken as far as they go, and they are a number unless there are none. -/
theorem takeAmount_digits (hdigits : ∀ c ∈ digits, c.isDigit = true)
    (hrest : ∀ c, rest.head? = some c → c.isDigit = false)
    (hstar : (digits ++ rest).head? ≠ some '*') :
    takeAmount limit ifAbsent (digits ++ rest) =
      (if digits.isEmpty then ifAbsent
        else if limit < Nat.ofDigitChars 10 digits 0 then .tooLarge
        else .given (Nat.ofDigitChars 10 digits 0), rest) := by
  have hnone : rest.takeWhile Char.isDigit = [] ∧ rest.dropWhile Char.isDigit = rest := by
    cases rest with
    | nil => exact ⟨rfl, rfl⟩
    | cons c rest =>
        have hc := Bool.eq_false_iff.mp (hrest c rfl)
        exact ⟨List.takeWhile_cons_of_neg hc, List.dropWhile_cons_of_neg hc⟩
  rw [takeAmount, if_neg hstar, List.takeWhile_append_of_pos hdigits,
    List.dropWhile_append_of_pos hdigits, hnone.1, hnone.2, List.append_nil, ← decimalValue_eq]

/-- An amount is a star, nothing, a number, or too large a number. -/
theorem takeAmount_cases {s : Text} (h : takeAmount limit ifAbsent s = (amount, rest)) :
    (s = '*' :: rest ∧ amount = .argument) ∨ (s = rest ∧ amount = ifAbsent) ∨
    (∃ digits, s = digits ++ rest ∧ digits ≠ [] ∧ (∀ c ∈ digits, c.isDigit = true) ∧
      Nat.ofDigitChars 10 digits 0 ≤ limit ∧ amount = .given (Nat.ofDigitChars 10 digits 0)) ∨
    amount = .tooLarge := by
  have hsplit := List.takeWhile_append_dropWhile (p := Char.isDigit) (l := s)
  have hdigits : ∀ c ∈ s.takeWhile Char.isDigit, c.isDigit = true :=
    fun c hc => List.all_eq_true.mp List.all_takeWhile c hc
  rw [takeAmount] at h
  split at h
  · rename_i hstar
    obtain ⟨rest', rfl⟩ := List.head?_eq_some_iff.mp hstar
    cases h
    exact .inl ⟨rfl, rfl⟩
  · obtain ⟨hamount, rfl⟩ := Prod.mk.inj h
    rw [decimalValue_eq] at hamount
    split at hamount
    · rename_i hempty
      rw [List.isEmpty_iff.mp hempty, List.nil_append] at hsplit
      exact .inr (.inl ⟨hsplit.symm, hamount.symm⟩)
    · rename_i hne
      split at hamount
      · exact .inr (.inr (.inr hamount.symm))
      · rename_i hsmall
        exact .inr (.inr (.inl ⟨_, hsplit.symm, mt List.isEmpty_iff.mpr hne, hdigits,
          Nat.le_of_not_lt hsmall, hamount.symm⟩))

end Amounts

/-! ## What follows a part -/

/-- The characters that a size or what follows it begins with. -/
def afterPrecision : List Char :=
  ['h', 'l', 'L'] ++ letters

/-- The characters that a precision or what follows it begins with. -/
def afterWidth : List Char :=
  '.' :: afterPrecision

/-- Whether a text begins with one of some characters. -/
def Begins (chars : List Char) (s : Text) : Prop :=
  ∃ c rest, s = c :: rest ∧ c ∈ chars

/-- Behind the precision comes a size or the letter. -/
theorem begins_size {sizeText : Text} {letter : Char} (hsize : IsSize sizeText)
    (hletter : letter ∈ letters) (rest : Text) : Begins afterPrecision (sizeText ++ letter :: rest) := by
  rcases hsize with _ | hc
  · exact ⟨letter, rest, rfl, List.mem_append_right _ hletter⟩
  · exact ⟨_, letter :: rest, rfl, List.mem_append_left _ hc⟩

/-- Behind the width comes a point, a size or the letter. -/
theorem begins_precision {precisionText rest : Text} {precision : Amount}
    (hprecision : IsPrecision precisionText precision) (hrest : Begins afterPrecision rest) :
    Begins afterWidth (precisionText ++ rest) := by
  rcases hprecision with _ | _ | _
  · obtain ⟨c, rest, rfl, hc⟩ := hrest
    exact ⟨c, rest, rfl, List.mem_cons_of_mem _ hc⟩
  · exact ⟨'.', _, rfl, List.mem_cons_self⟩
  · exact ⟨'.', _, rfl, List.mem_cons_self⟩

/-! ## Reading the parts -/

section Parts

variable {rest : Text}

/-- Neither a width nor what follows it begins with a flag. -/
theorem isFlag_head?_width {widthText : Text} {width : Amount} (hwidth : IsWidth widthText width)
    (hrest : Begins afterWidth rest) {c : Char} (hc : (widthText ++ rest).head? = some c) :
    isFlag c = false := by
  have hother : ∀ c ∈ afterWidth, isFlag c = false :=
    List.all_iff_forall_prop.mp (by decide)
  rcases hwidth with _ | _ | ⟨hdigits, hfirst, hsmall⟩
  · obtain ⟨d, rest, rfl, hd⟩ := hrest
    cases hc
    exact hother c hd
  · cases hc
    rfl
  · cases hc
    have hdigit := hdigits c List.mem_cons_self
    have hmarks : ∀ d ∈ ['-', '+', ' ', '#'], d.isDigit = false :=
      List.all_iff_forall_prop.mp (by decide)
    refine Bool.eq_false_iff.mpr fun hflag => ?_
    rcases List.mem_append.mp
      (show c ∈ ['-', '+', ' ', '#'] ++ ['0'] from List.contains_iff_mem.mp hflag) with hmark | hzero
    · rw [hmarks c hmark] at hdigit
      cases hdigit
    · exact hfirst (List.mem_singleton.mp hzero)

/-- Flags are taken up to the first character that is none. -/
theorem takeFlags_append {flagsText : Text} {flags : Flags} (hflags : AreFlags flagsText flags)
    (hrest : ∀ c, rest.head? = some c → isFlag c = false) :
    takeFlags {} (flagsText ++ rest) = (flags, rest) := by
  obtain ⟨hchars, rfl⟩ := areFlags_iff.mp hflags
  have hnone : rest.takeWhile isFlag = [] ∧ rest.dropWhile isFlag = rest := by
    cases rest with
    | nil => exact ⟨rfl, rfl⟩
    | cons c rest =>
        have hc := Bool.eq_false_iff.mp (hrest c rfl)
        exact ⟨List.takeWhile_cons_of_neg hc, List.dropWhile_cons_of_neg hc⟩
  rw [takeFlags_eq, List.takeWhile_append_of_pos hchars, List.dropWhile_append_of_pos hchars,
    hnone.1, hnone.2, List.append_nil]

/-- A width is taken up to what may stand behind it. -/
theorem takeWidth_append {widthText : Text} {width : Amount} (hwidth : IsWidth widthText width)
    (hrest : Begins afterWidth rest) :
    takeAmount maxWidth .absent (widthText ++ rest) = (width, rest) := by
  have hother : ∀ c ∈ afterWidth, c.isDigit = false ∧ c ≠ '*' :=
    List.all_iff_forall_prop.mp (by decide)
  have hdigit : ∀ c, rest.head? = some c → c.isDigit = false := by
    obtain ⟨c, rest, rfl, hc⟩ := hrest
    rintro _ ⟨⟩
    exact (hother c hc).1
  have hhead : rest.head? ≠ some '*' := by
    obtain ⟨c, rest, rfl, hc⟩ := hrest
    rintro ⟨⟩
    exact (hother '*' hc).2 rfl
  rcases hwidth with _ | _ | ⟨hdigits, hfirst, hsmall⟩
  · exact takeAmount_digits (List.forall_mem_nil _) hdigit hhead
  · exact takeAmount_star rest
  · have hstar : ∀ d : Char, d.isDigit = true → some d ≠ some '*' := by
      rintro _ hd ⟨⟩
      cases hd
    have hle : _ ≤ maxWidth := Nat.le_of_lt_succ hsmall
    rw [takeAmount_digits hdigits hdigit (hstar _ (hdigits _ List.mem_cons_self)),
      if_neg (by simp), if_neg (Nat.not_lt.mpr hle)]

/-- So is a precision. -/
theorem takePrecision_append {precisionText : Text} {precision : Amount}
    (hprecision : IsPrecision precisionText precision) (hrest : Begins afterPrecision rest) :
    takePrecision (precisionText ++ rest) = (precision, rest) := by
  -- whatever follows a precision neither continues it nor begins like one
  have hother : ∀ c ∈ afterPrecision, c.isDigit = false ∧ c ≠ '*' ∧ c ≠ '.' :=
    List.all_iff_forall_prop.mp (by decide)
  have hdigit : ∀ c, rest.head? = some c → c.isDigit = false := by
    obtain ⟨c, rest, rfl, hc⟩ := hrest
    rintro _ ⟨⟩
    exact (hother c hc).1
  rcases hprecision with _ | _ | @⟨digits, hdigits, hsmall⟩
  · refine if_neg ?_
    obtain ⟨c, rest, rfl, hc⟩ := hrest
    rintro ⟨⟩
    exact (hother '.' hc).2.2 rfl
  · show takeAmount maxPrecision (.given 0) ('*' :: rest) = _
    exact takeAmount_star rest
  · have hstar : (digits ++ rest).head? ≠ some '*' := by
      cases digits with
      | nil =>
          obtain ⟨c, rest, rfl, hc⟩ := hrest
          rintro ⟨⟩
          exact (hother '*' hc).2.1 rfl
      | cons d digits =>
          rintro ⟨⟩
          cases hdigits '*' List.mem_cons_self
    have hle : _ ≤ maxPrecision := Nat.le_of_lt_succ hsmall
    show takeAmount maxPrecision (.given 0) (digits ++ rest) = _
    rw [takeAmount_digits hdigits hdigit hstar, if_neg (Nat.not_lt.mpr hle)]
    cases digits with
    | nil => rfl
    | cons d digits => rfl

/-- A size is dropped, and the letter is never taken for one. -/
theorem dropSize_append {sizeText : Text} {letter : Char} (hsize : IsSize sizeText)
    (hletter : letter ∈ letters) : dropSize (sizeText ++ letter :: rest) = letter :: rest := by
  have hother : ∀ c ∈ letters, ¬ (c = 'h' ∨ c = 'l' ∨ c = 'L') :=
    List.all_iff_forall_prop.mp (by decide)
  rcases hsize with _ | hc
  · exact if_neg (hother letter hletter)
  · refine if_pos ?_
    simpa using hc

/-- A directive is read as what it is made of, and what stands behind it is left. -/
theorem takeDirective_of_isDirective {s : Text} {d : Directive} (h : IsDirective s d)
    (rest : Text) : takeDirective (s ++ rest) = (d, rest) := by
  obtain ⟨hflags, hwidth, hprecision, hsize, hletter⟩ := h
  rename_i flagsText widthText precisionText sizeText flags width precision letter
  have hafterSize := begins_size hsize hletter rest
  have hafterPrecision := begins_precision hprecision hafterSize
  have hsplit : (flagsText ++ (widthText ++ (precisionText ++ (sizeText ++ [letter])))) ++ rest =
      flagsText ++ (widthText ++ (precisionText ++ (sizeText ++ letter :: rest))) := by
    simp
  rw [takeDirective, hsplit,
    takeFlags_append hflags fun c => isFlag_head?_width hwidth hafterPrecision]
  dsimp only
  rw [takeWidth_append hwidth hafterPrecision]
  dsimp only
  rw [takePrecision_append hprecision hafterSize]
  dsimp only
  rw [dropSize_append hsize hletter]
  rfl

end Parts

/-! ## What is read is a directive -/

/-- What is taken for flags are flags. -/
theorem exists_areFlags {s rest : Text} {flags : Flags} (h : takeFlags {} s = (flags, rest)) :
    ∃ flagsText, AreFlags flagsText flags ∧ s = flagsText ++ rest ∧
      ∀ c, rest.head? = some c → isFlag c = false := by
  rw [takeFlags_eq] at h
  obtain ⟨rfl, rfl⟩ := Prod.mk.inj h
  refine ⟨s.takeWhile isFlag, areFlags_iff.mpr ⟨?_, rfl⟩, List.takeWhile_append_dropWhile.symm, ?_⟩
  · exact fun c hc => List.all_eq_true.mp List.all_takeWhile c hc
  · intro c hc
    have hfirst := List.head?_dropWhile_not isFlag s
    rw [hc] at hfirst
    exact hfirst

/-- What is taken for a width is one, unless it is too large. -/
theorem exists_isWidth {s rest : Text} {width : Amount}
    (h : takeAmount maxWidth .absent s = (width, rest)) (hlarge : width ≠ .tooLarge)
    (hflag : ∀ c, s.head? = some c → isFlag c = false) :
    ∃ widthText, IsWidth widthText width ∧ s = widthText ++ rest := by
  rcases takeAmount_cases h with ⟨rfl, rfl⟩ | ⟨rfl, rfl⟩ | ⟨digits, rfl, hne, hdigits, hsmall, rfl⟩ |
    htoo
  · exact ⟨['*'], .star, rfl⟩
  · exact ⟨[], .absent, rfl⟩
  · obtain ⟨c, digits, rfl⟩ := List.exists_cons_of_ne_nil hne
    have hfirst : c ≠ '0' := by
      rintro rfl
      cases hflag '0' rfl
    exact ⟨c :: digits, .digits hdigits hfirst (Nat.lt_succ_of_le hsmall), rfl⟩
  · exact absurd htoo hlarge

/-- What is taken for a precision is one, unless it is too large. -/
theorem exists_isPrecision {s rest : Text} {precision : Amount}
    (h : takePrecision s = (precision, rest)) (hlarge : precision ≠ .tooLarge) :
    ∃ precisionText, IsPrecision precisionText precision ∧ s = precisionText ++ rest := by
  rw [takePrecision] at h
  split at h
  · rename_i hpoint
    obtain ⟨s, rfl⟩ := List.head?_eq_some_iff.mp hpoint
    rcases takeAmount_cases h with ⟨hs, rfl⟩ | ⟨hs, rfl⟩ |
      ⟨digits, hs, hne, hdigits, hsmall, rfl⟩ | htoo
    · rw [List.tail_cons] at hs
      exact ⟨['.', '*'], .star, by rw [hs]; rfl⟩
    · rw [List.tail_cons] at hs
      exact ⟨['.'], .digits (List.forall_mem_nil _) (by decide), by rw [hs]; rfl⟩
    · rw [List.tail_cons] at hs
      exact ⟨'.' :: digits, .digits hdigits (Nat.lt_succ_of_le hsmall), by rw [hs]; rfl⟩
    · exact absurd htoo hlarge
  · obtain ⟨rfl, rfl⟩ := Prod.mk.inj h
    exact ⟨[], .absent, rfl⟩

/-- What is dropped is a size. -/
theorem exists_isSize (s : Text) : ∃ sizeText, IsSize sizeText ∧ s = sizeText ++ dropSize s := by
  rw [dropSize.eq_def]
  cases s with
  | nil => exact ⟨[], .absent, rfl⟩
  | cons c s =>
      dsimp only
      split
      · rename_i hc
        exact ⟨[c], .letter (by simpa using hc), rfl⟩
      · exact ⟨[], .absent, rfl⟩

/-- What is read as a directive is one, if its amounts are not too large and its letter is that of a
conversion. -/
theorem exists_isDirective {s rest : Text} {d : Directive} (h : takeDirective s = (d, rest))
    (hwidth : d.width ≠ .tooLarge) (hprecision : d.precision ≠ .tooLarge) {letter : Char}
    (hconversion : d.conversion = some letter) (hletter : letter ∈ letters) :
    ∃ text, IsDirective text d ∧ s = text ++ rest := by
  rw [takeDirective] at h
  rcases hflags : takeFlags {} s with ⟨flags, s₁⟩
  rw [hflags] at h
  dsimp only at h
  rcases hamount : takeAmount maxWidth .absent s₁ with ⟨width, s₂⟩
  rw [hamount] at h
  dsimp only at h
  rcases hplaces : takePrecision s₂ with ⟨precision, s₃⟩
  rw [hplaces] at h
  dsimp only at h
  obtain ⟨rfl, rfl⟩ := Prod.mk.inj h
  obtain ⟨flagsText, hareFlags, rfl, hnoFlag⟩ := exists_areFlags hflags
  obtain ⟨widthText, hisWidth, rfl⟩ := exists_isWidth hamount hwidth hnoFlag
  obtain ⟨precisionText, hisPrecision, rfl⟩ := exists_isPrecision hplaces hprecision
  obtain ⟨sizeText, hisSize, hs₃⟩ := exists_isSize s₃
  obtain ⟨behind, hbehind⟩ := List.head?_eq_some_iff.mp hconversion
  have hdirective := IsDirective.mk hareFlags hisWidth hisPrecision hisSize hletter
  rw [← hconversion] at hdirective
  refine ⟨_, hdirective, ?_⟩
  rw [hbehind] at hs₃ ⊢
  rw [hs₃]
  simp

end SignalLab.Print
