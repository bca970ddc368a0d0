import SignalLab.Proofs.Number.Integers
import SignalLab.Proofs.Program.ReadBack
import SignalLab.Proofs.Text.Quoting

/-!
# Arguments — what an argument of a print call stands for

An argument is tried as a quoted text, as the length of a variable, as an element of a vector and as
an expression, in this order.  Here each form is said by concatenation, `Denotes` gives the value of
each, and `Rejected` lists what can be wrong with each: a length of nothing, a position that is no
integer or outside the vector, a complex element, a whole vector, an expression without a value.
Every argument denotes one value or is rejected (`denotes_or_rejected`), and the reader of arguments
finds just that (`argument_eq_ok_iff`, `rejected_iff`).
-/

namespace SignalLab.Print

open Text Statement Fallible

/-! ## Forms -/

/-- Whether an argument is a text in quotes and nothing else, blanks around it aside. -/
def IsLiteral (arg s : Text) : Prop :=
  ∃ gap q rest, isBlankText gap = true ∧ isQuote q = true ∧ isBlankText rest = true ∧
    arg = gap ++ (quoteText q s ++ rest)

/-- Whether an argument asks for the length of a variable. -/
def Counts (arg name : Text) : Prop :=
  ∃ (word : String) (gap left right : Text), (word = "length" ∨ word = "numel") ∧
    isBlankText gap = true ∧ isBlankText left = true ∧ isBlankText right = true ∧ IsTarget name ∧
    arg = word.toList ++ (gap ++ '(' :: (left ++ (name ++ (right ++ [')']))))

/-- Whether an argument is written like an element of a vector, with the given text as the index. -/
def Selects (arg name index : Text) : Prop :=
  ∃ gap inside, isBlankText gap = true ∧ IsTarget name ∧ index = trim inside ∧ index ≠ [] ∧
    '\n' ∉ index ∧ arg = name ++ (gap ++ '(' :: (inside ++ [')']))

/-- Whether an argument is an element of a vector that is bound. -/
structure IsElement (store : Store) (arg : Text) (v : Value) (length : Nat) (index : Text) :
    Prop where
  not_count : ∀ name, ¬ Counts arg name
  selects : ∃ name, Selects arg name index ∧ store.get? name = some v
  length : v.length? = some length

/-- Whether an argument is an expression: it has none of the other forms. -/
structure IsExpression (store : Store) (arg : Text) : Prop where
  not_literal : ∀ s, ¬ IsLiteral arg s
  not_count : ∀ name, ¬ Counts arg name
  not_element : ∀ v length index, ¬ IsElement store arg v length index

/-! ## Values -/

/-- Whether a double is an integer, and which. -/
def Represents (x : Float) (n : Int) : Prop :=
  Double.value? x = some (n : ℚ)

/-- Whether an argument is a double as it is printed: an integer if it is one. -/
def Shows (x : Float) : Argument → Prop
  | .integer n => Represents x n
  | .real y => (∀ n, ¬ Represents x n) ∧ y = x
  | .text _ => False

/-- Whether an index stands for a position, from one, in a vector of the given length. -/
inductive IsPosition (store : Store) (length : Nat) (index : Text) : Int → Prop
  /-- The word `end` alone is the last position. -/
  | last (word : index = "end") : IsPosition store length index length
  /-- Anything else is evaluated, with the length for each `end` in it, and cut to an integer. -/
  | value {x : Float} {v : ℚ} {i : Int} (other : index ≠ "end")
      (value : evalText store.scalars (substituteEnd (Text.ofNat length) index) = .ok x)
      (finite : Double.value? x = some v) (truncated : Double.IsTruncated v i) :
      IsPosition store length index i

/-- What an argument stands for. -/
inductive Denotes (store : Store) (arg : Text) : Argument → Prop
  | text {s : Text} (literal : IsLiteral arg s) : Denotes store arg (.text s)
  | count {name : Text} {v : Value} (counts : Counts arg name) (bound : store.get? name = some v) :
      Denotes store arg (.integer (Shape.elementCount (some v)))
  | element {xs : List Float} {index : Text} {i : Int} {x : Float} {a : Argument}
      (selects : IsElement store arg (.realVector xs) xs.length index)
      (position : IsPosition store xs.length index i) (positive : 1 ≤ i)
      (value : xs[i.toNat - 1]? = some x) (shows : Shows x a) : Denotes store arg a
  | number {x : Float} {a : Argument} (expression : IsExpression store arg)
      (single : ∀ v, store.get? arg = some v → v.isVector = false)
      (value : evalText store.scalars arg = .ok x) (shows : Shows x a) : Denotes store arg a

/-- What is wrong with an argument that stands for nothing. -/
inductive Rejected (store : Store) (arg : Text) : Prop
  | undefined {name : Text} (counts : Counts arg name) (unbound : store.get? name = none)
  | noPosition {v : Value} {length : Nat} {index : Text}
      (selects : IsElement store arg v length index)
      (position : ∀ i, ¬ IsPosition store length index i)
  | outOfBounds {v : Value} {length : Nat} {index : Text} {i : Int}
      (selects : IsElement store arg v length index) (position : IsPosition store length index i)
      (outside : i < 1 ∨ (length : Int) < i)
  | complex {zs : List ComplexDouble} {index : Text} {i : Int}
      (selects : IsElement store arg (.complexVector zs) zs.length index)
      (position : IsPosition store zs.length index i) (inside : 1 ≤ i ∧ i ≤ zs.length)
  | vector {v : Value} (expression : IsExpression store arg) (bound : store.get? arg = some v)
      (vector : v.isVector = true)
  | noValue (expression : IsExpression store arg)
      (value : ∀ x, evalText store.scalars arg ≠ .ok x)

/-! ## Reading the forms -/

variable {arg : Text}

/-- An argument is read as a literal exactly if it is one. -/
theorem literal?_eq_some_iff {s : Text} : literal? arg = some s ↔ IsLiteral arg s := by
  rw [literal?]
  constructor
  · intro h
    split at h
    · rename_i rest hliteral
      split at h
      · rename_i hrest
        cases h
        obtain ⟨gap, q, hgap, hq, -, rfl⟩ := takeLiteral?_eq_some_iff.mp hliteral
        exact ⟨gap, q, rest, hgap, hq, hrest, rfl⟩
      · cases h
    · cases h
  · rintro ⟨gap, q, rest, hgap, hq, hrest, rfl⟩
    have hhead : rest.head? ≠ some q := by
      intro heq
      have hblank : isBlank q = true := isBlankText_iff.mp hrest q (List.mem_of_head? heq)
      rw [isBlank_of_isQuote hq] at hblank
      cases hblank
    rw [takeLiteral?_eq_some_iff.mpr ⟨gap, q, hgap, hq, hhead, rfl⟩]
    exact if_pos hrest

/-- What stands behind a name: blanks and a parenthesis are no word characters. -/
theorem isWordChar_head?_blanks {gap rest : Text} (hgap : isBlankText gap = true) {d : Char}
    (hd : isWordChar d = false) : ∀ c, (gap ++ d :: rest).head? = some c → isWordChar c = false := by
  intro c hc
  cases gap with
  | nil =>
      cases hc
      exact hd
  | cons e gap =>
      cases hc
      exact isWordChar_of_isBlank (isBlankText_iff.mp hgap _ List.mem_cons_self)

theorem takeNamedArgument?_eq_some_iff {s name rest : Text} :
    takeNamedArgument? s = some (name, rest) ↔
      ∃ left right, isBlankText left = true ∧ isBlankText right = true ∧ IsTarget name ∧
        s = left ++ (name ++ (right ++ ')' :: rest)) := by
  have hparenthesis : isBlank ')' = false := by decide
  unfold takeNamedArgument?
  simp only [Option.bind_eq_bind, Option.bind_eq_some_iff, Prod.exists]
  constructor
  · rintro ⟨name', behind, hname, rest', hclose, heq⟩
    cases heq
    obtain ⟨htarget, hleft, -⟩ := takeIdentifier?_eq_some_iff.mp hname
    obtain ⟨right, hright, rfl⟩ := (afterBlanks?_eq_some_iff hparenthesis).mp hclose
    refine ⟨s.takeWhile isBlank, right, List.all_takeWhile, isBlankText_iff.mpr hright, htarget, ?_⟩
    rw [← hleft, trimLeft, List.takeWhile_append_dropWhile]
  · rintro ⟨left, right, hleft, hright, htarget, rfl⟩
    refine ⟨name, right ++ ')' :: rest, ?_, rest, ?_, rfl⟩
    · rw [trimLeft_blanks_append hleft]
      have hfirst : trimLeft (name ++ (right ++ ')' :: rest)) = name ++ (right ++ ')' :: rest) := by
        obtain ⟨c, others, rfl⟩ := List.exists_cons_of_ne_nil htarget.ne_nil
        exact trimLeft_eq_self fun d hd => by
          cases hd
          exact htarget.isBlank c List.mem_cons_self
      rw [hfirst]
      exact takeIdentifier?_eq_some_iff.mpr
        ⟨htarget, rfl, isWordChar_head?_blanks hright (by decide)⟩
    · exact (afterBlanks?_eq_some_iff hparenthesis).mpr ⟨right, isBlankText_iff.mp hright, rfl⟩

/-- It is read as a length exactly if it counts elements. -/
theorem lengthOf?_eq_some_iff {name : Text} :
    Shape.lengthOf? ["length", "numel"] arg = some name ↔ Counts arg name := by
  unfold Shape.lengthOf?
  simp only [Option.bind_eq_bind, Option.bind_eq_some_iff, Prod.exists]
  constructor
  · rintro ⟨rest, hcall, name', rest', hnamed, heq⟩
    split at heq
    · rename_i hempty
      cases heq
      obtain ⟨word, hmem, hword⟩ := List.exists_of_findSome?_eq_some hcall
      obtain ⟨gap, hgap, rfl⟩ := afterCall?_eq_some_iff.mp hword
      obtain ⟨left, right, hleft, hright, htarget, rfl⟩ := takeNamedArgument?_eq_some_iff.mp hnamed
      rw [List.isEmpty_iff.mp hempty]
      exact ⟨word, gap, left, right, by simpa using hmem, isBlankText_iff.mpr hgap, hleft, hright,
        htarget, rfl⟩
    · cases heq
  · rintro ⟨word, gap, left, right, hmem, hgap, hleft, hright, htarget, rfl⟩
    have hnamed : takeNamedArgument? (left ++ (name ++ (right ++ [')']))) = some (name, []) :=
      takeNamedArgument?_eq_some_iff.mpr ⟨left, right, hleft, hright, htarget, rfl⟩
    refine ⟨_, ?_, name, [], hnamed, rfl⟩
    have hword : afterCall? word (word.toList ++
        (gap ++ '(' :: (left ++ (name ++ (right ++ [')']))))) =
          some (left ++ (name ++ (right ++ [')']))) :=
      afterCall?_eq_some_iff.mpr ⟨gap, isBlankText_iff.mp hgap, rfl⟩
    rw [List.findSome?_cons]
    rcases hmem with rfl | rfl
    · rw [hword]
    · -- the two words begin with different letters
      have hother : afterCall? "length" ("numel".toList ++
          (gap ++ '(' :: (left ++ (name ++ (right ++ [')']))))) = none := by rfl
      rw [hother, List.findSome?_cons, hword]

/-- It is read as an element exactly if it selects one. -/
theorem elementOf?_eq_some_iff {name index : Text} :
    elementOf? arg = some (name, index) ↔ Selects arg name index := by
  have hparenthesis : isBlank '(' = false := by decide
  unfold elementOf?
  simp only [Option.bind_eq_bind, Option.bind_eq_some_iff, Prod.exists]
  constructor
  · rintro ⟨name', behind, hname, rest, hopen, heq⟩
    obtain ⟨htarget, rfl, -⟩ := takeIdentifier?_eq_some_iff.mp hname
    obtain ⟨gap, hgap, rfl⟩ := (afterBlanks?_eq_some_iff hparenthesis).mp hopen
    split at heq
    · rename_i hlast
      split at heq
      · cases heq
      · rename_i hinner
        cases heq
        rw [Bool.or_eq_true, not_or, List.isEmpty_iff, List.contains_iff_mem] at hinner
        obtain ⟨inside, rfl⟩ := List.getLast?_eq_some_iff.mp hlast
        rw [List.dropLast_concat] at hinner ⊢
        exact ⟨gap, inside, isBlankText_iff.mpr hgap, htarget, rfl, hinner.1, hinner.2, rfl⟩
    · cases heq
  · rintro ⟨gap, inside, hgap, htarget, rfl, hne, hline, rfl⟩
    have hopen : afterBlanks? '(' (gap ++ '(' :: (inside ++ [')'])) = some (inside ++ [')']) :=
      (afterBlanks?_eq_some_iff hparenthesis).mpr ⟨gap, isBlankText_iff.mp hgap, rfl⟩
    have hname : takeIdentifier? (name ++ (gap ++ '(' :: (inside ++ [')']))) =
        some (name, gap ++ '(' :: (inside ++ [')'])) :=
      takeIdentifier?_eq_some_iff.mpr ⟨htarget, rfl, isWordChar_head?_blanks hgap (by decide)⟩
    refine ⟨name, _, hname, _, hopen, ?_⟩
    rw [if_pos List.getLast?_concat, List.dropLast_concat]
    refine if_neg ?_
    rw [Bool.or_eq_true, not_or, List.isEmpty_iff, List.contains_iff_mem]
    exact ⟨hne, hline⟩

variable {store : Store}

/-- It names an element of a vector if the name is bound to one. -/
theorem vectorElement?_eq_some_iff {v : Value} {length : Nat} {index : Text} :
    vectorElement? store arg = some (v, length, index) ↔
      (∃ name, Selects arg name index ∧ store.get? name = some v) ∧ v.length? = some length := by
  unfold vectorElement?
  simp only [Option.bind_eq_bind, Option.bind_eq_some_iff, Prod.exists]
  constructor
  · rintro ⟨name, index', helement, v', hbound, length', hlength, heq⟩
    cases heq
    exact ⟨⟨name, elementOf?_eq_some_iff.mp helement, hbound⟩, hlength⟩
  · rintro ⟨⟨name, hselects, hbound⟩, hlength⟩
    exact ⟨name, index, elementOf?_eq_some_iff.mpr hselects, v, hbound, length, hlength, rfl⟩

/-! ## Reading the values -/

/-- Otherwise it is no length. -/
theorem lengthOf?_eq_none_iff :
    Shape.lengthOf? ["length", "numel"] arg = none ↔ ∀ name, ¬ Counts arg name := by
  rw [Option.eq_none_iff_forall_not_mem]
  exact forall_congr' fun name => not_congr lengthOf?_eq_some_iff

/-- Otherwise it is no literal. -/
theorem literal?_eq_none_iff : literal? arg = none ↔ ∀ s, ¬ IsLiteral arg s := by
  rw [Option.eq_none_iff_forall_not_mem]
  exact forall_congr' fun s => not_congr literal?_eq_some_iff

/-- A text that begins with a letter is not quoted. -/
theorem not_isLiteral {c : Char} {behind : Text} (hc : isWordChar c = true)
    (h : arg = c :: behind) (s : Text) : ¬ IsLiteral arg s := by
  rintro ⟨gap, q, rest, hgap, hq, -, hquoted⟩
  have hblank : isBlank c = false := isBlank_of_isWordChar hc
  rw [h, quoteText_append] at hquoted
  cases gap with
  | nil =>
      obtain rfl : c = q := (List.cons.inj hquoted).1
      rw [isQuote, Bool.or_eq_true, beq_iff_eq, beq_iff_eq] at hq
      rcases hq with rfl | rfl <;> cases hc
  | cons d gap =>
      obtain rfl : c = d := (List.cons.inj hquoted).1
      rw [isBlankText_iff.mp hgap c List.mem_cons_self] at hblank
      cases hblank

/-- What counts elements is not quoted. -/
theorem Counts.not_isLiteral {name : Text} (h : Counts arg name) (s : Text) :
    ¬ IsLiteral arg s := by
  obtain ⟨word, gap, left, right, hword, -, -, -, -, harg⟩ := h
  rcases hword with rfl | rfl
  · exact Print.not_isLiteral (c := 'l') (by decide) harg s
  · exact Print.not_isLiteral (c := 'n') (by decide) harg s

/-- Neither is what selects an element. -/
theorem Selects.not_isLiteral {name index : Text} (h : Selects arg name index) (s : Text) :
    ¬ IsLiteral arg s := by
  obtain ⟨gap, inside, -, htarget, -, -, -, harg⟩ := h
  obtain ⟨⟨c, others, rfl, hc⟩, -⟩ := of_takeIdentifier? htarget
  exact Print.not_isLiteral (isWordChar_of_isAsciiNameStart hc) harg s

/-- A length is read as such. -/
theorem argument_of_counts {name : Text} {v : Value} (h : Counts arg name)
    (hbound : store.get? name = some v) :
    argument store arg = .ok (.integer (Shape.elementCount (some v))) := by
  simp only [argument, literal?_eq_none_iff.mpr h.not_isLiteral, lengthOf?_eq_some_iff.mpr h,
    hbound]

/-- It is an error if nothing is bound. -/
theorem argument_of_counts_unbound {name : Text} (h : Counts arg name)
    (hunbound : store.get? name = none) :
    argument store arg = .error (.argument (.undefined name)) := by
  simp only [argument, literal?_eq_none_iff.mpr h.not_isLiteral, lengthOf?_eq_some_iff.mpr h,
    hunbound]

/-- An element is found by its position. -/
theorem argument_of_isElement {v : Value} {length : Nat} {index : Text}
    (h : IsElement store arg v length index) :
    argument store arg = position store length index >>= element v length := by
  obtain ⟨name, hselects, hbound⟩ := h.selects
  rw [argument, literal?_eq_none_iff.mpr hselects.not_isLiteral,
    lengthOf?_eq_none_iff.mpr h.not_count,
    vectorElement?_eq_some_iff.mpr ⟨h.selects, h.length⟩]

/-- Whatever has none of the other forms is read as an expression. -/
theorem argument_of_isExpression (h : IsExpression store arg) :
    argument store arg = expressionArgument store arg := by
  have hnone : vectorElement? store arg = none := by
    rw [Option.eq_none_iff_forall_not_mem]
    rintro ⟨v, length, index⟩ hsome
    obtain ⟨hselects, hlength⟩ := vectorElement?_eq_some_iff.mp hsome
    exact h.not_element v length index ⟨h.not_count, hselects, hlength⟩
  rw [argument, literal?_eq_none_iff.mpr h.not_literal, lengthOf?_eq_none_iff.mpr h.not_count,
    hnone]

/-- A double that is an integer is an integer as an argument. -/
theorem ofReal_of_represents {x : Float} {n : Int} (h : Represents x n) :
    Argument.ofReal x = .integer n := by
  obtain ⟨s, m, q, hparts, -⟩ := Double.value?_eq_some_iff.mp h
  have hinteger := Double.toInteger_of_intCast h .towardZero
  rw [Double.toInteger, hparts] at hinteger
  simp only [Argument.ofReal, hparts, if_pos (Double.isIntegral_iff.mpr ⟨n, h⟩)]
  exact congrArg Argument.integer (Except.ok.inj hinteger)

/-- Any other double is itself. -/
theorem ofReal_of_not_represents {x : Float} (h : ∀ n, ¬ Represents x n) :
    Argument.ofReal x = .real x := by
  have hnot : ¬ Double.isIntegral x = true := fun hx =>
    (Double.isIntegral_iff.mp hx).elim h
  rw [Argument.ofReal]
  cases hparts : Double.parts x with
  | finite s m q => simp only [if_neg hnot]
  | infinite s => rfl
  | nan => rfl

/-- A double is shown as one argument only. -/
theorem shows_iff {x : Float} {a : Argument} : Shows x a ↔ a = .ofReal x := by
  constructor
  · intro h
    cases a with
    | text s => exact h.elim
    | integer n => exact (ofReal_of_represents h).symm
    | real y => rw [h.2, ofReal_of_not_represents h.1]
  · rintro rfl
    by_cases hx : ∃ n, Represents x n
    · obtain ⟨n, hn⟩ := hx
      rw [ofReal_of_represents hn]
      exact hn
    · have hnone := not_exists.mp hx
      rw [ofReal_of_not_represents hnone]
      exact ⟨hnone, rfl⟩

/-- An index is read as the position that it says. -/
theorem position_eq_ok_iff {length : Nat} {index : Text} {i : Int} :
    position store length index = .ok i ↔ IsPosition store length index i := by
  rw [position]
  constructor
  · intro h
    split at h
    · rename_i hend
      cases h
      exact .last hend
    · rename_i hend
      obtain ⟨x, hx, hi⟩ := bind_ok_iff.mp h
      obtain ⟨v, hv, htruncated⟩ := Double.toInteger_towardZero_iff.mp (mapError_ok_iff.mp hi)
      exact .value hend (mapError_ok_iff.mp hx) hv htruncated
  · rintro (hend | ⟨hend, hx, hv, htruncated⟩)
    · rw [if_pos hend]
    · have hi := Double.toInteger_towardZero_iff.mpr ⟨_, hv, htruncated⟩
      rw [if_neg hend]
      exact bind_ok_iff.mpr ⟨_, mapError_ok_iff.mpr hx, mapError_ok_iff.mpr hi⟩

/-- A vector of doubles has an element at each of its positions, and no vector has others to print. -/
theorem element_eq_ok_iff {v : Value} {length : Nat} {i : Int} {a : Argument}
    (hlength : v.length? = some length) :
    element v length i = .ok a ↔
      ∃ xs x, v = .realVector xs ∧ 1 ≤ i ∧ xs[i.toNat - 1]? = some x ∧ Shows x a := by
  simp only [shows_iff]
  rw [element.eq_def]
  constructor
  · intro h
    split at h
    · cases h
    · rename_i hinside
      split at h
      · rename_i xs
        cases h
        obtain rfl : xs.length = length := Option.some.inj hlength
        have hlt : i.toNat - 1 < xs.length := by omega
        refine ⟨xs, _, rfl, by omega, ?_, rfl⟩
        rw [List.getD_eq_getElem?_getD, List.getElem?_eq_getElem hlt, Option.getD_some]
      · cases h
  · rintro ⟨xs, x, rfl, hpositive, hx, rfl⟩
    obtain rfl : xs.length = length := Option.some.inj hlength
    obtain ⟨hlt, -⟩ := List.getElem?_eq_some_iff.mp hx
    rw [if_neg (by omega)]
    show Except.ok (Argument.ofReal (xs.getD (i.toNat - 1) 0.0)) = _
    rw [List.getD_eq_getElem?_getD, hx, Option.getD_some]

/-- An argument that denotes something is read as what it denotes. -/
theorem Denotes.argument {a : Argument} (h : Denotes store arg a) :
    argument store arg = .ok a := by
  cases h with
  | text literal =>
      rw [Print.argument, literal?_eq_some_iff.mpr literal]
  | count counts bound => exact argument_of_counts counts bound
  | element selects position positive value shows =>
      rw [argument_of_isElement selects, position_eq_ok_iff.mpr position]
      exact (element_eq_ok_iff selects.length).mpr ⟨_, _, rfl, positive, value, shows⟩
  | number expression single value shows =>
      have hvector : ¬ (store.get? arg).any Value.isVector = true := by
        rw [Option.any_eq_true]
        rintro ⟨v, hbound, hvector⟩
        rw [single v hbound] at hvector
        cases hvector
      rw [argument_of_isExpression expression, expressionArgument, if_neg hvector, value,
        shows_iff.mp shows]
      rfl

/-- A rejected argument has no value. -/
theorem Rejected.argument (h : Rejected store arg) (a : Argument) :
    argument store arg ≠ .ok a := by
  intro ha
  cases h with
  | undefined counts unbound =>
      cases (argument_of_counts_unbound counts unbound).symm.trans ha
  | noPosition selects position =>
      rw [argument_of_isElement selects] at ha
      obtain ⟨i, hi, -⟩ := bind_ok_iff.mp ha
      exact position i (position_eq_ok_iff.mp hi)
  -- a position outside has no element, whatever the vector is made of
  | @outOfBounds v length index i selects position outside =>
      rw [argument_of_isElement selects, position_eq_ok_iff.mpr position] at ha
      obtain ⟨xs, x, rfl, hpositive, hx, -⟩ := (element_eq_ok_iff selects.length).mp ha
      obtain ⟨hlt, -⟩ := List.getElem?_eq_some_iff.mp hx
      have hlength : xs.length = length := Option.some.inj selects.length
      omega
  | complex selects position inside =>
      rw [argument_of_isElement selects, position_eq_ok_iff.mpr position] at ha
      obtain ⟨xs, x, hv, -⟩ := (element_eq_ok_iff selects.length).mp ha
      cases hv
  | vector expression bound vector =>
      rw [argument_of_isExpression expression, expressionArgument, bound] at ha
      cases (if_pos vector).symm.trans ha
  | noValue expression value =>
      rw [argument_of_isExpression expression, expressionArgument] at ha
      split at ha
      · cases ha
      · obtain ⟨x, hx, -⟩ := map_ok_iff.mp ha
        exact value x (mapError_ok_iff.mp hx)

/-- An element of a vector denotes something, or something is wrong with it. -/
theorem IsElement.denotes_or_rejected {v : Value} {length : Nat} {index : Text}
    (h : IsElement store arg v length index) : (∃ a, Denotes store arg a) ∨ Rejected store arg := by
  by_cases hposition : ∃ i, IsPosition store length index i
  · obtain ⟨i, hposition⟩ := hposition
    by_cases hinside : 1 ≤ i ∧ i ≤ length
    · cases v with
      | scalar x => cases h.length
      | complexVector zs =>
          obtain rfl : zs.length = length := Option.some.inj h.length
          exact .inr (.complex h hposition hinside)
      | realVector xs =>
          obtain rfl : xs.length = length := Option.some.inj h.length
          have hlt : i.toNat - 1 < xs.length := by omega
          exact .inl ⟨_, .element h hposition hinside.1 (List.getElem?_eq_getElem hlt)
            (shows_iff.mpr rfl)⟩
    · exact .inr (.outOfBounds h hposition (by omega))
  · exact .inr (.noPosition h fun i hi => hposition ⟨i, hi⟩)

/-- Every argument denotes something, or something is wrong with it. -/
theorem denotes_or_rejected (store : Store) (arg : Text) :
    (∃ a, Denotes store arg a) ∨ Rejected store arg := by
  by_cases hliteral : ∃ s, IsLiteral arg s
  · obtain ⟨s, hs⟩ := hliteral
    exact .inl ⟨_, .text hs⟩
  by_cases hcount : ∃ name, Counts arg name
  · obtain ⟨name, hname⟩ := hcount
    cases hbound : store.get? name with
    | none => exact .inr (.undefined hname hbound)
    | some v => exact .inl ⟨_, .count hname hbound⟩
  by_cases helement : ∃ v length index, IsElement store arg v length index
  · obtain ⟨v, length, index, h⟩ := helement
    exact h.denotes_or_rejected
  have hexpression : IsExpression store arg :=
    { not_literal := fun s hs => hliteral ⟨s, hs⟩
      not_count := fun name hname => hcount ⟨name, hname⟩
      not_element := fun v length index h => helement ⟨v, length, index, h⟩ }
  by_cases hvector : ∃ v, store.get? arg = some v ∧ v.isVector = true
  · obtain ⟨v, hbound, hv⟩ := hvector
    exact .inr (.vector hexpression hbound hv)
  cases hvalue : evalText store.scalars arg with
  | error e => exact .inr (.noValue hexpression fun x hx => by cases hvalue.symm.trans hx)
  | ok x =>
      refine .inl ⟨_, .number hexpression (fun v hbound => ?_) hvalue (shows_iff.mpr rfl)⟩
      exact Bool.eq_false_iff.mpr fun hv => hvector ⟨v, hbound, hv⟩

/-- What an argument is read as is what it denotes. -/
theorem argument_eq_ok_iff {a : Argument} : argument store arg = .ok a ↔ Denotes store arg a := by
  refine ⟨fun h => ?_, Denotes.argument⟩
  rcases denotes_or_rejected store arg with ⟨b, hb⟩ | hrejected
  · cases h.symm.trans hb.argument
    exact hb
  · exact absurd h (hrejected.argument a)

/-- An argument is rejected exactly if it denotes nothing. -/
theorem rejected_iff : Rejected store arg ↔ ∀ a, ¬ Denotes store arg a := by
  constructor
  · intro h a ha
    exact h.argument a ha.argument
  · intro h
    rcases denotes_or_rejected store arg with ⟨a, ha⟩ | hrejected
    · exact absurd ha (h a)
    · exact hrejected

/-- An argument has a value exactly if it denotes one. -/
theorem argument?_eq_some_iff {a : Argument} :
    argument? store arg = some a ↔ Denotes store arg a := by
  rw [← argument_eq_ok_iff, argument?]
  exact toOption_eq_some_iff

/-- It has none exactly if it is rejected. -/
theorem argument?_eq_none_iff : argument? store arg = none ↔ Rejected store arg := by
  rw [rejected_iff, Option.eq_none_iff_forall_not_mem]
  exact forall_congr' fun a => not_congr argument?_eq_some_iff

end SignalLab.Print
