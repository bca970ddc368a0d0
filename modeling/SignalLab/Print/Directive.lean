import SignalLab.Text.Basic

/-!
# Directives — the parts of a print format

A format is a sequence of characters that stand for themselves, of doubled percent signs, each one
percent sign, and of directives.  A directive is a percent sign, flags in any order, a width, a
precision behind a point, a size letter without meaning, and the letter of a conversion.  Width
and precision are digits, or a star, which takes the next argument.  `pieces` reads a format.  What is
no notation is read too, as an amount that is too large, a directive without a letter, or a mapping:
whether it is an error depends on how far the format is written.
-/

namespace SignalLab.Print

/-- The flags of a directive. -/
structure Flags where
  left : Bool := false
  plus : Bool := false
  blank : Bool := false
  alternate : Bool := false
  zero : Bool := false
  deriving DecidableEq, Repr

/-- A width or a precision. -/
inductive Amount where
  | absent
  | given (n : Nat)
  | argument
  | tooLarge
  deriving DecidableEq, Repr

/-- A directive of a format; one that the format ends in has no letter of a conversion. -/
structure Directive where
  flags : Flags
  width : Amount
  precision : Amount
  conversion : Option Char
  deriving DecidableEq, Repr

/-- A part of a format. -/
inductive Piece where
  | char (c : Char)
  | directive (d : Directive)
  /-- A directive that asks for an argument by its name; nothing behind it is read. -/
  | mapping
  deriving DecidableEq, Repr

/-! ## Reading -/

/-- The flags with the one a character stands for. -/
def Flags.set? (flags : Flags) (c : Char) : Option Flags :=
  if c = '-' then some { flags with left := true }
  else if c = '+' then some { flags with plus := true }
  else if c = ' ' then some { flags with blank := true }
  else if c = '#' then some { flags with alternate := true }
  else if c = '0' then some { flags with zero := true }
  else none

/-- The flags at the front, added to the given ones, and the rest. -/
def takeFlags (flags : Flags) : Text → Flags × Text
  | [] => (flags, [])
  | c :: s =>
    match flags.set? c with
    | some flags => takeFlags flags s
    | none => (flags, c :: s)

/-- The number with the given ASCII digits. -/
def decimalValue (digits : Text) : Nat :=
  digits.foldl (fun n c => 10 * n + (c.toNat - '0'.toNat)) 0

/-- The amount at the front, and the rest. -/
def takeAmount (limit : Nat) (ifAbsent : Amount) (s : Text) : Amount × Text :=
  if s.head? = some '*' then (.argument, s.tail)
  else
    let digits := s.takeWhile Char.isDigit
    let amount :=
      if digits.isEmpty then ifAbsent
      else if limit < decimalValue digits then .tooLarge
      else .given (decimalValue digits)
    (amount, s.dropWhile Char.isDigit)

/-- The largest width. -/
def maxWidth : Nat := 9223372036854775807

/-- The largest precision. -/
def maxPrecision : Nat := 2147483647

/-- The precision at the front, which a point begins, and the rest. -/
def takePrecision (s : Text) : Amount × Text :=
  if s.head? = some '.' then takeAmount maxPrecision (.given 0) s.tail else (.absent, s)

/-- The rest after one size letter, if there is one. -/
def dropSize (s : Text) : Text :=
  match s with
  | [] => []
  | c :: rest => if c = 'h' ∨ c = 'l' ∨ c = 'L' then rest else c :: rest

/-- The directive at the front, behind its percent sign, and the rest. -/
def takeDirective (s : Text) : Directive × Text :=
  let (flags, s) := takeFlags {} s
  let (width, s) := takeAmount maxWidth .absent s
  let (precision, s) := takePrecision s
  let s := dropSize s
  (⟨flags, width, precision, s.head?⟩, s.tail)

/-! ## Reading goes on behind a directive -/

theorem length_takeFlags (flags : Flags) (s : Text) : (takeFlags flags s).2.length ≤ s.length := by
  induction s generalizing flags with
  | nil => exact Nat.le_refl 0
  | cons c s ih =>
    rw [takeFlags]
    split
    · exact Nat.le_succ_of_le (ih _)
    · exact Nat.le_refl _

theorem length_takeAmount (limit : Nat) (ifAbsent : Amount) (s : Text) :
    (takeAmount limit ifAbsent s).2.length ≤ s.length := by
  rw [takeAmount]
  split
  · simp
  · exact (List.dropWhile_suffix _).length_le

theorem length_takePrecision (s : Text) : (takePrecision s).2.length ≤ s.length := by
  rw [takePrecision]
  split
  · exact Nat.le_trans (length_takeAmount _ _ _) (by simp)
  · exact Nat.le_refl _

theorem length_dropSize (s : Text) : (dropSize s).length ≤ s.length := by
  rw [dropSize.eq_def]
  split
  · exact Nat.le_refl _
  · split
    · exact Nat.le_succ _
    · exact Nat.le_refl _

theorem length_takeDirective (s : Text) : (takeDirective s).2.length ≤ s.length := by
  rw [takeDirective]
  have hflags := length_takeFlags {} s
  have hwidth := length_takeAmount maxWidth .absent (takeFlags {} s).2
  have hprecision := length_takePrecision (takeAmount maxWidth .absent (takeFlags {} s).2).2
  have hsize := length_dropSize
    (takePrecision (takeAmount maxWidth .absent (takeFlags {} s).2).2).2
  show (dropSize _).tail.length ≤ s.length
  rw [List.length_tail]
  omega

/-- The parts of a format. -/
def pieces (s : Text) : List Piece :=
  match s with
  | [] => []
  | c :: s =>
    if c ≠ '%' then .char c :: pieces s
    else if s.head? = some '%' then .char '%' :: pieces s.tail
    else if s.head? = some '(' then [.mapping]
    else .directive (takeDirective s).1 :: pieces (takeDirective s).2
termination_by s.length
decreasing_by
  · exact Nat.lt_succ_self _
  · rw [List.length_tail, List.length_cons]
    omega
  · exact Nat.lt_succ_of_le (length_takeDirective s)

end SignalLab.Print
