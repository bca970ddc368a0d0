import SignalLab.Proofs.Print.Conversions
import SignalLab.Proofs.Print.Directives
import SignalLab.Proofs.Text.Substitution

/-!
# Formats — what a format writes with its arguments

A star takes a width or a precision from the arguments (`TakesWidth`, `TakesPrecision`), and then a
directive takes the argument that it converts (`Directs`).  A format is made of characters, doubled
percent signs and directives, one after the other (`Formats`).  It is written exactly if it is such a
sequence that uses up its arguments, and then as the sequence says (`write_eq_ok_iff`).
-/

namespace SignalLab.Print

open Text Fallible

/-! ## Stars -/

/-- The flags and the width of a directive, and the arguments left.  A star takes an argument; a
negative one asks for blanks at the end, and the least of all for no width. -/
inductive TakesWidth (flags : Flags) : Amount → List Argument → Flags → ℕ → List Argument → Prop
  | absent (args : List Argument) : TakesWidth flags .absent args flags 0 args
  | given (n : ℕ) (args : List Argument) : TakesWidth flags (.given n) args flags n args
  | star {n : ℕ} (small : n < 2 ^ 63) (args : List Argument) :
      TakesWidth flags .argument (.integer n :: args) flags n args
  | negative {n : ℕ} (positive : 0 < n) (small : n < 2 ^ 63) (args : List Argument) :
      TakesWidth flags .argument (.integer (-n) :: args) { flags with left := true } n args
  | least (args : List Argument) :
      TakesWidth flags .argument (.integer (-2 ^ 63) :: args) { flags with left := true } 0 args

/-- The precision of a directive, and the arguments left.  A star takes an argument; a negative one
counts as zero. -/
inductive TakesPrecision : Amount → List Argument → Option ℕ → List Argument → Prop
  | absent (args : List Argument) : TakesPrecision .absent args none args
  | given (n : ℕ) (args : List Argument) : TakesPrecision (.given n) args (some n) args
  | star {n : ℕ} (small : n < 2 ^ 31) (args : List Argument) :
      TakesPrecision .argument (.integer n :: args) (some n) args
  | negative {n : ℕ} (small : n ≤ 2 ^ 31) (args : List Argument) :
      TakesPrecision .argument (.integer (-n) :: args) (some 0) args

/-! ## Formats -/

/-- What a directive writes, and the arguments left. -/
inductive Directs (d : Directive) (args : List Argument) : List Symbol → List Argument → Prop
  | mk {flags : Flags} {width : ℕ} {precision : Option ℕ} {letter : Char} {a : Argument}
      {middle rest : List Argument} {field : Field} {w : List Symbol}
      (takesWidth : TakesWidth d.flags d.width args flags width middle)
      (takesPrecision : TakesPrecision d.precision middle precision (a :: rest))
      (conversion : d.conversion = some letter) (converts : Converts flags precision letter a field)
      (filled : IsFilled flags width field w) : Directs d args w rest

/-- What a format writes with just these arguments. -/
inductive Formats : Text → List Argument → List Symbol → Prop
  | nil : Formats [] [] []
  | char {c : Char} {s : Text} {args : List Argument} {w : List Symbol} (plain : c ≠ '%')
      (rest : Formats s args w) : Formats (c :: s) args (.char c :: w)
  | percent {s : Text} {args : List Argument} {w : List Symbol} (rest : Formats s args w) :
      Formats ('%' :: '%' :: s) args (.char '%' :: w)
  | directive {text s : Text} {d : Directive} {args left : List Argument} {v w : List Symbol}
      (isDirective : IsDirective text d) (directs : Directs d args v left) (rest : Formats s left w) :
      Formats ('%' :: (text ++ s)) args (v ++ w)

/-- A text with each doubled percent sign as one, from left to right. -/
inductive Halves : Text → Text → Prop
  | nil : Halves [] []
  | char {c : Char} {s t : Text} (unpaired : c ≠ '%' ∨ s.head? ≠ some '%') (rest : Halves s t) :
      Halves (c :: s) (c :: t)
  | pair {s t : Text} (rest : Halves s t) : Halves ('%' :: '%' :: s) ('%' :: t)

/-- A text with its escapes replaced, from left to right. -/
inductive Unescapes : Text → Text → Prop
  | nil : Unescapes [] []
  | char {c : Char} {s t : Text} (plain : c ≠ '\\') (rest : Unescapes s t) :
      Unescapes (c :: s) (c :: t)
  | newline {s t : Text} (rest : Unescapes s t) : Unescapes ('\\' :: 'n' :: s) ('\n' :: t)
  | tab {s t : Text} (rest : Unescapes s t) : Unescapes ('\\' :: 't' :: s) ('\t' :: t)
  | backslash {s t : Text} (rest : Unescapes s t) : Unescapes ('\\' :: '\\' :: s) ('\\' :: t)
  | silent {c : Char} {s t : Text} (silent : c = 'r' ∨ c = 'a') (rest : Unescapes s t) :
      Unescapes ('\\' :: c :: s) t
  | other {c : Char} {s t : Text} (other : c ∉ ['n', 't', '\\', 'r', 'a', '\n'])
      (rest : Unescapes s t) : Unescapes ('\\' :: c :: s) ('\\' :: c :: t)
  /-- A backslash before a line feed stands for itself. -/
  | line {s t : Text} (rest : Unescapes ('\n' :: s) t) : Unescapes ('\\' :: '\n' :: s) ('\\' :: t)
  /-- So does one at the end. -/
  | last : Unescapes ['\\'] ['\\']

/-- What a format writes.  Without arguments it is no format but a text. -/
inductive IsWritten (format : Text) : List Argument → List Symbol → Prop
  | plain {t : Text} (halves : Halves format t) : IsWritten format [] (symbols t)
  | formatted {args : List Argument} {w : List Symbol} (given : args ≠ [])
      (formats : Formats format args w) : IsWritten format args w

/-! ## Stars are taken -/

variable {flags flags' : Flags} {width : ℕ} {precision : Option ℕ} {args rest : List Argument}

/-- A star takes an integer. -/
theorem takeStar_eq_ok_iff {n : ℤ} : takeStar args = .ok (n, rest) ↔ args = .integer n :: rest := by
  constructor
  · intro h
    rw [takeStar.eq_def] at h
    split at h
    · cases h
    · cases h
      rfl
    · cases h
  · rintro rfl
    rfl

/-- A width that is found is taken from the arguments. -/
theorem takesWidth_of_layout {d : Directive} (h : d.layout args = .ok (flags, width, rest)) :
    TakesWidth d.flags d.width args flags width rest := by
  have hmax : (maxWidth : ℤ) = 2 ^ 63 - 1 := rfl
  rw [Directive.layout] at h
  split at h
  · rename_i hwidth
    rw [hwidth]
    cases h
    exact .absent _
  · rename_i n hwidth
    rw [hwidth]
    cases h
    exact .given _ _
  · cases h
  · rename_i hwidth
    rw [hwidth]
    obtain ⟨⟨n, left⟩, hstar, h⟩ := bind_ok_iff.mp h
    obtain rfl := takeStar_eq_ok_iff.mp hstar
    change (if _ then _ else _) = _ at h
    split at h
    · cases h
    rename_i hrange
    split at h
    · rename_i hnegative
      obtain ⟨rfl, hsize⟩ := Prod.mk.inj (Except.ok.inj h)
      obtain ⟨rfl, rfl⟩ := Prod.mk.inj hsize
      obtain ⟨k, rfl⟩ : ∃ k : ℕ, n = -k := ⟨n.natAbs, by omega⟩
      rw [Int.natAbs_neg, Int.natAbs_natCast]
      -- only the least word has a size that is no width
      by_cases hleast : k = 2 ^ 63
      · rw [hleast, if_neg (by decide)]
        exact .least left
      · rw [if_pos (by omega)]
        exact .negative (by omega) (by omega) left
    · rename_i hnonneg
      obtain ⟨rfl, hsize⟩ := Prod.mk.inj (Except.ok.inj h)
      obtain ⟨rfl, rfl⟩ := Prod.mk.inj hsize
      obtain ⟨k, rfl⟩ := Int.eq_ofNat_of_zero_le (Int.not_lt.mp hnonneg)
      exact .star (by omega) left

/-- A width that can be taken from the arguments is found. -/
theorem layout_of_takesWidth {d : Directive} (h : TakesWidth d.flags d.width args flags width rest) :
    d.layout args = .ok (flags, width, rest) := by
  have hmax : (maxWidth : ℤ) = 2 ^ 63 - 1 := rfl
  generalize hwidth : d.width = amount at h
  rw [Directive.layout, hwidth]
  cases h with
  | absent => rfl
  | given => rfl
  | star small =>
      show (if _ then _ else _) = _
      rw [if_neg (by omega), if_neg (by omega), Int.natAbs_natCast]
  | negative positive small =>
      have hle : width ≤ maxWidth := by omega
      show (if _ then _ else _) = _
      rw [if_neg (by omega), if_pos (by omega), Int.natAbs_neg, Int.natAbs_natCast, if_pos hle]
  | least => rfl

/-- A precision that is found is taken from the arguments. -/
theorem takesPrecision_of_places {d : Directive} (h : d.places args = .ok (precision, rest)) :
    TakesPrecision d.precision args precision rest := by
  have hmax : (maxPrecision : ℤ) = 2 ^ 31 - 1 := rfl
  rw [Directive.places] at h
  split at h
  · rename_i hprecision
    rw [hprecision]
    cases h
    exact .absent _
  · rename_i n hprecision
    rw [hprecision]
    cases h
    exact .given _ _
  · cases h
  · rename_i hprecision
    rw [hprecision]
    obtain ⟨⟨n, left⟩, hstar, h⟩ := bind_ok_iff.mp h
    obtain rfl := takeStar_eq_ok_iff.mp hstar
    change (if _ then _ else _) = _ at h
    split at h
    · cases h
    rename_i hrange
    obtain ⟨rfl, rfl⟩ := Prod.mk.inj (Except.ok.inj h)
    rcases Int.le_total 0 n with hn | hn
    · obtain ⟨k, rfl⟩ := Int.eq_ofNat_of_zero_le hn
      exact .star (by omega) left
    · obtain ⟨k, rfl⟩ : ∃ k : ℕ, n = -k := ⟨n.natAbs, by omega⟩
      rw [Int.toNat_of_nonpos hn]
      exact .negative (by omega) left

/-- A precision that can be taken from the arguments is found. -/
theorem places_of_takesPrecision {d : Directive}
    (h : TakesPrecision d.precision args precision rest) :
    d.places args = .ok (precision, rest) := by
  have hmax : (maxPrecision : ℤ) = 2 ^ 31 - 1 := rfl
  generalize hprecision : d.precision = amount at h
  rw [Directive.places, hprecision]
  cases h with
  | absent => rfl
  | given => rfl
  | star small =>
      show (if _ then _ else _) = _
      rw [if_neg (by omega), Int.toNat_natCast]
  | negative small =>
      show (if _ then _ else _) = _
      rw [if_neg (by omega), Int.toNat_of_nonpos (by omega)]

/-- A directive takes one argument for its letter. -/
theorem operand_eq_ok_iff {d : Directive} {letter : Char} {a : Argument} :
    d.operand args = .ok (letter, a, rest) ↔ d.conversion = some letter ∧ args = a :: rest := by
  rw [Directive.operand.eq_def]
  split
  · rename_i hnone
    exact iff_of_false (fun h => by cases h) fun h => by cases hnone.symm.trans h.1
  · exact iff_of_false (fun h => by cases h) fun h => by cases h.2
  · rename_i hsome
    rw [hsome]
    constructor
    · rintro ⟨⟩
      exact ⟨rfl, rfl⟩
    · rintro ⟨⟨⟩, ⟨⟩⟩
      rfl

/-! ## Directives and formats are written -/

/-- What a directive writes is found, and what it leaves of the arguments. -/
theorem writeDirective_eq_ok_iff {d : Directive} {w : List Symbol} :
    d.write args = .ok (w, rest) ↔ Directs d args w rest := by
  rw [Directive.write, bind_ok_iff]
  constructor
  · rintro ⟨⟨flags, width, middle⟩, hlayout, h⟩
    obtain ⟨⟨precision, args'⟩, hplaces, h⟩ := bind_ok_iff.mp h
    obtain ⟨⟨letter, a, left⟩, hoperand, h⟩ := bind_ok_iff.mp h
    obtain ⟨field, hconvert, h⟩ := bind_ok_iff.mp h
    obtain ⟨rfl, rfl⟩ := Prod.mk.inj (Except.ok.inj h)
    obtain ⟨hconversion, rfl⟩ := operand_eq_ok_iff.mp hoperand
    exact .mk (takesWidth_of_layout hlayout) (takesPrecision_of_places hplaces) hconversion
      (convert_eq_ok_iff.mp hconvert) (isFilled_iff.mpr rfl)
  · rintro ⟨hwidth, hprecision, hconversion, hconverts, hfilled⟩
    rw [isFilled_iff.mp hfilled]
    exact ⟨_, layout_of_takesWidth hwidth, bind_ok_iff.mpr ⟨_, places_of_takesPrecision hprecision,
      bind_ok_iff.mpr ⟨_, operand_eq_ok_iff.mpr ⟨hconversion, rfl⟩,
        bind_ok_iff.mpr ⟨_, convert_eq_ok_iff.mpr hconverts, rfl⟩⟩⟩⟩

/-- A directive that writes anything has the letter of a conversion. -/
theorem mem_letters_of_directs {d : Directive} {w : List Symbol} {letter : Char}
    (h : Directs d args w rest) (hletter : d.conversion = some letter) : letter ∈ letters := by
  obtain ⟨-, -, hconversion, hconverts, -⟩ := h
  obtain rfl := Option.some.inj (hletter.symm.trans hconversion)
  by_contra hother
  exact not_converts hother hconverts

/-- The width and the precision of a directive that writes anything are not too large. -/
theorem not_tooLarge_of_directs {d : Directive} {w : List Symbol} (h : Directs d args w rest) :
    d.width ≠ .tooLarge ∧ d.precision ≠ .tooLarge := by
  obtain ⟨hwidth, hprecision, -, -, -⟩ := h
  constructor
  · intro heq
    rw [heq] at hwidth
    cases hwidth
  · intro heq
    rw [heq] at hprecision
    cases hprecision

/-- No directive begins like a doubled percent sign or a name of an argument. -/
theorem exists_head_of_isDirective {text : Text} {d : Directive} (h : IsDirective text d)
    (s : Text) : ∃ c t, text ++ s = c :: t ∧ c ≠ '%' ∧ c ≠ '(' := by
  obtain ⟨hflags, hwidth, hprecision, hsize, hletter⟩ := h
  rename_i flagsText widthText precisionText sizeText flags width precision letter
  have hsplit : (flagsText ++ (widthText ++ (precisionText ++ (sizeText ++ [letter])))) ++ s =
      flagsText ++ (widthText ++ (precisionText ++ (sizeText ++ letter :: s))) := by
    simp
  have hmarks : ∀ {chars : List Char} {c : Char}, ('%' ∉ chars ∧ '(' ∉ chars) → c ∈ chars →
      c ≠ '%' ∧ c ≠ '(' :=
    fun hchars hc => ⟨fun h => hchars.1 (h ▸ hc), fun h => hchars.2 (h ▸ hc)⟩
  rw [hsplit]
  cases flagsText with
  | cons c flagsText => exact ⟨c, _, rfl, hmarks (by decide) (hflags.chars c List.mem_cons_self)⟩
  | nil =>
      rcases hwidth with _ | _ | ⟨hdigits, hfirst, hsmall⟩
      · obtain ⟨c, t, ht, hc⟩ := begins_precision hprecision (begins_size hsize hletter s)
        exact ⟨c, t, ht, hmarks (by decide) hc⟩
      · exact ⟨'*', _, rfl, by decide⟩
      · refine ⟨_, _, rfl, ?_, ?_⟩
        all_goals
          rintro rfl
          cases hdigits _ List.mem_cons_self

/-- A character stands for itself. -/
theorem pieces_char {c : Char} (hc : c ≠ '%') (s : Text) : pieces (c :: s) = .char c :: pieces s := by
  rw [pieces, if_pos hc]

/-- A doubled percent sign stands for one. -/
theorem pieces_percent (s : Text) : pieces ('%' :: '%' :: s) = .char '%' :: pieces s := by
  rw [pieces, if_neg (by decide), if_pos List.head?_cons]
  rfl

/-- A directive is one piece. -/
theorem pieces_directive {text : Text} {d : Directive} (h : IsDirective text d) (s : Text) :
    pieces ('%' :: (text ++ s)) = .directive d :: pieces s := by
  obtain ⟨c, t, ht, hpercent, hparenthesis⟩ := exists_head_of_isDirective h s
  have hhead : (text ++ s).head? = some c := by rw [ht, List.head?_cons]
  have htake := takeDirective_of_isDirective h s
  rw [pieces, if_neg (by decide), if_neg (by rw [hhead]; simpa using hpercent),
    if_neg (by rw [hhead]; simpa using hparenthesis), htake]

/-- A format that is written is a sequence of pieces for its arguments. -/
theorem formats_of_writePieces {s : Text} {w : List Symbol} (h : writePieces (pieces s) args = .ok w) :
    Formats s args w := by
  fun_induction pieces s generalizing args w with
  | case1 =>
      cases args with
      | nil =>
          cases h
          exact .nil
      | cons a args => cases h
  | case2 c s hc ih =>
      rw [writePieces.eq_def] at h
      obtain ⟨v, hv, hw⟩ := bind_ok_iff.mp h
      cases hw
      exact .char hc (ih hv)
  | case3 c s hc hhead ih =>
      obtain ⟨s, rfl⟩ := List.head?_eq_some_iff.mp hhead
      obtain rfl : c = '%' := not_not.mp hc
      rw [writePieces.eq_def] at h
      obtain ⟨v, hv, hw⟩ := bind_ok_iff.mp h
      cases hw
      exact .percent (ih hv)
  | case4 c s hc hhead hparenthesis => cases h
  | case5 c s hc hhead hparenthesis ih =>
      obtain rfl : c = '%' := not_not.mp hc
      rw [writePieces.eq_def] at h
      obtain ⟨⟨v, left⟩, hdirective, h⟩ := bind_ok_iff.mp h
      obtain ⟨u, hu, hw⟩ := bind_ok_iff.mp h
      cases hw
      -- a directive that writes anything is complete, so that its text can be told
      have hdirects := writeDirective_eq_ok_iff.mp hdirective
      obtain ⟨hwidth, hprecision⟩ := not_tooLarge_of_directs hdirects
      obtain ⟨letter, hletter⟩ : ∃ letter, (takeDirective s).1.conversion = some letter := by
        obtain ⟨-, -, hconversion, -, -⟩ := hdirects
        exact ⟨_, hconversion⟩
      have htake : takeDirective s = ((takeDirective s).1, (takeDirective s).2) := rfl
      obtain ⟨text, hisDirective, hs⟩ := exists_isDirective htake hwidth hprecision hletter
        (mem_letters_of_directs hdirects hletter)
      rw [hs]
      exact .directive hisDirective hdirects (ih hu)

/-- A sequence of pieces for its arguments is written. -/
theorem writePieces_of_formats {s : Text} {w : List Symbol} (h : Formats s args w) :
    writePieces (pieces s) args = .ok w := by
  induction h with
  | nil => rw [pieces, writePieces]
  | char plain rest ih =>
      rw [pieces_char plain, writePieces, ih]
      rfl
  | percent rest ih =>
      rw [pieces_percent, writePieces, ih]
      rfl
  | directive isDirective directs rest ih =>
      rw [pieces_directive isDirective, writePieces, writeDirective_eq_ok_iff.mpr directs]
      show (writePieces _ _ >>= fun rest => _) = _
      rw [ih]
      rfl

/-! ## Whole formats -/

/-- Doubled percent signs are read from left to right, so that there is one reading. -/
theorem halves_iff {s t : Text} : Halves s t ↔ t = substitutePair '%' '%' '%' s := by
  constructor
  · intro h
    induction h with
    | nil => rfl
    | @char c s t unpaired rest ih =>
        rw [ih]
        rcases unpaired with hc | hs
        · rw [substitutePair_cons_of_ne hc]
        · cases s with
          | nil => rfl
          | cons d s =>
              rw [substitutePair_cons_cons_of_ne fun hd => hs (by rw [hd, List.head?_cons])]
    | pair rest ih => rw [ih, substitutePair_cons_of_pair]
  · rintro rfl
    fun_induction substitutePair '%' '%' '%' s with
    | case1 => exact .nil
    | case2 c => exact .char (.inr (by simp)) .nil
    | case3 c d s h ih =>
        obtain ⟨rfl, rfl⟩ := h
        exact .pair ih
    | case4 c d s h ih =>
        refine .char ?_ ih
        rw [List.head?_cons, ne_eq, ne_eq, Option.some.injEq]
        exact not_and_or.mp h

/-- A reading of the escapes of a text is the text with its escapes replaced. -/
theorem eq_of_unescapes {s t : Text} (h : Unescapes s t) : t = unescape s := by
  induction h with
  | nil => rfl
  | char plain rest ih => rw [ih, unescape_cons_of_ne plain]
  | newline rest ih => rw [ih, unescape, if_pos ⟨rfl, by decide⟩]; rfl
  | tab rest ih => rw [ih, unescape, if_pos ⟨rfl, by decide⟩]; rfl
  | backslash rest ih => rw [ih, unescape, if_pos ⟨rfl, by decide⟩]; rfl
  | silent silent rest ih =>
      rcases silent with rfl | rfl
      · rw [ih, unescape, if_pos ⟨rfl, by decide⟩]; rfl
      · rw [ih, unescape, if_pos ⟨rfl, by decide⟩]; rfl
  | @other c s t other rest ih =>
      simp only [List.mem_cons, List.not_mem_nil, or_false, not_or] at other
      obtain ⟨hn, ht, hslash, hr, ha, hline⟩ := other
      rw [ih, unescape, if_pos ⟨rfl, hline⟩, escapeValue, if_neg hn, if_neg ht, if_neg hslash,
        if_neg (by simp [hr, ha])]
      rfl
  | line rest ih => rw [ih, unescape, if_neg (by simp)]
  | last => rfl

/-- The text with its escapes replaced is a reading of them. -/
theorem unescapes_unescape (s : Text) : Unescapes s (unescape s) := by
  fun_induction unescape s with
  | case1 => exact .nil
  | case2 c =>
      by_cases hc : c = '\\'
      · rw [hc]
        exact .last
      · exact .char hc .nil
  | case3 c d s h ih =>
      obtain ⟨rfl, hline⟩ := h
      rw [escapeValue]
      split
      · rename_i hn
        rw [hn]
        exact .newline ih
      split
      · rename_i ht
        rw [ht]
        exact .tab ih
      split
      · rename_i hslash
        rw [hslash]
        exact .backslash ih
      split
      · rename_i hsilent
        exact .silent hsilent ih
      · rename_i hn ht hslash hsilent
        refine .other ?_ ih
        simp only [List.mem_cons, List.not_mem_nil, or_false, not_or] at hsilent ⊢
        exact ⟨hn, ht, hslash, hsilent.1, hsilent.2, hline⟩
  | case4 c d s h ih =>
      by_cases hc : c = '\\'
      · -- a backslash that is not read with the next character is before a line feed
        obtain rfl : d = '\n' := by
          by_contra hd
          exact h ⟨hc, hd⟩
        rw [hc]
        exact .line ih
      · exact .char hc ih

/-- Escapes are read from left to right, so that there is one reading. -/
theorem unescapes_iff {s t : Text} : Unescapes s t ↔ t = unescape s := by
  constructor
  · exact eq_of_unescapes
  · rintro rfl
    exact unescapes_unescape s

/-- A format is written exactly if it is one for its arguments, and then as it says. -/
theorem write_eq_ok_iff {format : Text} {w : List Symbol} :
    write format args = .ok w ↔ IsWritten format args w := by
  rw [write]
  constructor
  · intro h
    split at h
    · rename_i hempty
      rw [List.isEmpty_iff.mp hempty]
      cases h
      exact .plain (halves_iff.mpr rfl)
    · rename_i hgiven
      exact .formatted (mt List.isEmpty_iff.mpr hgiven) (formats_of_writePieces h)
  · rintro (hhalves | ⟨hgiven, hformats⟩)
    · rw [halves_iff.mp hhalves]
      rfl
    · rw [if_neg (mt List.isEmpty_iff.mp hgiven)]
      exact writePieces_of_formats hformats

end SignalLab.Print
