import SignalLab.Print.Call
import SignalLab.Program.Execution
import SignalLab.Proofs.Fallible

/-!
# Errors of print calls — the handler passes all of them over

The handler of print calls lists five of the six classes of errors.  The one that it does not list is
that of a division by zero.  Whether a computation keeps to the listed classes (`Caught`) is settled
step by step: each step of the arguments and of the format does, and so does what is composed of
them.  Hence a print call has no error that it does not pass over (`lines_eq_ok`), although nothing in
the types says so.
-/

namespace SignalLab

namespace Print

open Fallible

/-- Whether the errors of a computation are all of classes that the handler lists. -/
def Caught {α : Type} (x : Except Error α) : Prop :=
  ∀ e, x = .error e → e.errorClass ∈ passedOver

namespace Caught

variable {α β : Type} {x : Except Error α}

/-- A value is no error. -/
theorem ok (a : α) : Caught (.ok a : Except Error α) := by
  intro e he
  cases he

/-- An error of a format is of a listed class, whichever it is. -/
theorem format (e : FormatError) : Caught (.error (.format e) : Except Error α) := by
  intro error herror
  cases herror
  cases e <;> exact List.mem_of_elem_eq_true rfl

/-- So is what is wrong with an argument. -/
theorem argument (e : ArgumentError) : Caught (.error (.argument e) : Except Error α) := by
  intro error herror
  cases herror
  exact List.mem_cons_self

/-- A missing value of an expression is caught, whatever the cause is: the cause is behind a class of
its own. -/
theorem evaluation (x : Except EvalError α) : Caught (x.mapError .evaluation) := by
  intro error herror
  obtain ⟨e, -, rfl⟩ := mapError_error_iff.mp herror
  exact List.mem_cons_self

/-- A sequence keeps to the listed classes if its steps do. -/
theorem bind (hx : Caught x) {f : α → Except Error β} (hf : ∀ a, Caught (f a)) :
    Caught (x >>= f) := by
  intro e he
  rcases bind_error_iff.mp he with he | ⟨a, -, he⟩
  · exact hx e he
  · exact hf a e he

/-- A function of a result adds no error. -/
theorem map (hx : Caught x) (f : α → β) : Caught (x.map f) :=
  fun e he => hx e (map_error_iff.mp he)

/-- A traversal keeps to the listed classes if each of its steps does. -/
theorem mapM {f : β → Except Error α} (hf : ∀ b, Caught (f b)) (xs : List β) :
    Caught (xs.mapM f) := by
  intro e he
  obtain ⟨b, -, hb⟩ := exists_mem_of_mapM_error he
  exact hf b e hb

/-- Behind the handler there is no error left: a value is passed on, and an error passed over. -/
theorem handle (hx : Caught x) : handle passedOver x = .ok x.toOption := by
  cases x with
  | ok a => rfl
  | error e => exact if_pos (hx e rfl)

end Caught

/-! ## Conversions of numbers -/

/-- The integer of a double fails for infinities and for what is no number. -/
theorem caught_toInteger (mode : Double.Rounding) (x : Float) :
    Caught ((Double.toInteger mode x).mapError .arithmetic) := by
  intro error herror
  obtain ⟨fault, hfault, rfl⟩ := mapError_error_iff.mp herror
  rw [Double.toInteger] at hfault
  split at hfault
  · cases hfault
  · cases hfault
    decide
  · cases hfault
    decide

/-- The double of an integer fails for those beyond the largest double. -/
theorem caught_ofInt (n : Int) : Caught ((Double.ofInt n).mapError .arithmetic) := by
  intro error herror
  obtain ⟨fault, hfault, rfl⟩ := mapError_error_iff.mp herror
  rw [Double.ofInt] at hfault
  split at hfault
  · cases hfault
  · cases hfault
    decide

/-! ## Formats -/

/-- A text is no number, and an infinite double no integer. -/
theorem caught_truncated (a : Argument) : Caught a.truncated := by
  cases a with
  | integer n => exact .ok n
  | real x => exact caught_toInteger _ x
  | text s => exact .format _

/-- Only an integer is one for the other bases. -/
theorem caught_exact (a : Argument) : Caught a.exact := by
  cases a with
  | integer n => exact .ok n
  | real x => exact .format _
  | text s => exact .format _

/-- A text is no double, and a huge integer none either. -/
theorem caught_toReal (a : Argument) : Caught a.toReal := by
  cases a with
  | integer n => exact caught_ofInt n
  | real x => exact .ok x
  | text s => exact .format _

/-- An argument that is no character is of a wrong type or out of range. -/
theorem caught_symbol (a : Argument) : Caught a.symbol := by
  rw [Argument.symbol.eq_def]
  split
  · split
    · exact .format _
    · split
      · exact .ok _
      · exact .format _
  · exact .ok _
  · exact .format _

/-- A precision of an integer can be too large. -/
theorem caught_integerField (flags : Flags) (precision : Option Nat) (mark : Text)
    (digits : Nat → Text) (n : Int) : Caught (integerField flags precision mark digits n) := by
  rw [integerField]
  split
  · exact .format _
  · exact .ok _

/-- A conversion writes its argument, or the argument does not suit it. -/
theorem caught_convert (flags : Flags) (precision : Option Nat) (letter : Char) (a : Argument) :
    Caught (convert flags precision letter a) := by
  rw [convert.eq_def]
  split
  iterate 3 exact (caught_truncated a).bind fun _ => caught_integerField _ _ _ _ _
  iterate 3 exact (caught_exact a).bind fun _ => caught_integerField _ _ _ _ _
  iterate 6 exact (caught_toReal a).map _
  · exact (caught_symbol a).map _
  iterate 3 exact .ok _
  · exact .format _

/-- A star needs an argument, and an integer for one. -/
theorem caught_takeStar (args : List Argument) : Caught (takeStar args) := by
  rw [takeStar.eq_def]
  split
  · exact .format _
  · exact .ok _
  · exact .format _

/-- A width can be too large, in the format as well as in an argument. -/
theorem caught_layout (d : Directive) (args : List Argument) : Caught (d.layout args) := by
  rw [Directive.layout]
  split
  · exact .ok _
  · exact .ok _
  · exact .format _
  · refine (caught_takeStar args).bind fun ⟨n, args⟩ => ?_
    show Caught (if _ then _ else _)
    split
    · exact .format _
    · split
      · exact .ok _
      · exact .ok _

/-- So can a precision. -/
theorem caught_places (d : Directive) (args : List Argument) : Caught (d.places args) := by
  rw [Directive.places]
  split
  · exact .ok _
  · exact .ok _
  · exact .format _
  · refine (caught_takeStar args).bind fun ⟨n, args⟩ => ?_
    show Caught (if _ then _ else _)
    split
    · exact .format _
    · exact .ok _

/-- A directive can be incomplete, and its argument can be missing. -/
theorem caught_operand (d : Directive) (args : List Argument) : Caught (d.operand args) := by
  rw [Directive.operand.eq_def]
  split
  · exact .format _
  · exact .format _
  · exact .ok _

/-- A directive is written step by step, each of which is caught. -/
theorem caught_writeDirective (d : Directive) (args : List Argument) : Caught (d.write args) :=
  (caught_layout d args).bind fun ⟨_, _, args⟩ =>
    (caught_places d args).bind fun ⟨_, args⟩ =>
      (caught_operand d args).bind fun ⟨_, _, _⟩ =>
        (caught_convert _ _ _ _).bind fun _ => .ok _

/-- Arguments can be left over behind the last directive. -/
theorem caught_writePieces (ps : List Piece) (args : List Argument) :
    Caught (writePieces ps args) := by
  induction ps generalizing args with
  | nil =>
      cases args with
      | nil => exact .ok _
      | cons a args => exact .format _
  | cons p ps ih =>
      cases p with
      | char c => exact (ih args).bind fun _ => .ok _
      | mapping => exact .format _
      | directive d =>
          exact (caught_writeDirective d args).bind fun ⟨_, args⟩ => (ih args).bind fun _ => .ok _

/-- A format without arguments has no error at all. -/
theorem caught_write (format : Text) (args : List Argument) : Caught (write format args) := by
  rw [write]
  split
  · exact .ok _
  · exact caught_writePieces _ _

/-! ## Arguments and calls -/

/-- An index is evaluated and made an integer. -/
theorem caught_position (store : Store) (length : Nat) (index : Text) :
    Caught (position store length index) := by
  rw [position]
  split
  · exact .ok _
  · exact (Caught.evaluation _).bind fun x => caught_toInteger _ x

/-- An element can be out of bounds, and it can be complex. -/
theorem caught_element (v : Value) (length : Nat) (i : Int) : Caught (element v length i) := by
  rw [element.eq_def]
  split
  · exact .argument _
  · split
    · exact .ok _
    · exact .argument _

/-- An argument is a text, a length, an element or an expression, and no vector. -/
theorem caught_argument (store : Store) (arg : Text) : Caught (argument store arg) := by
  rw [argument]
  split
  · exact .ok _
  · split
    · exact .ok _
    · exact .argument _
  · exact (caught_position store _ _).bind fun i => caught_element _ _ i
  · rw [expressionArgument]
    split
    · exact .argument _
    · exact (Caught.evaluation _).map _

/-- A call reads its arguments and writes its format. -/
theorem caught_render (store : Store) (format : Text) (args : List Text) :
    Caught (render store format args) :=
  (Caught.mapM (caught_argument store) args).bind fun _ => caught_write _ _

/-- The lines of a print call are those of what it renders, if it renders anything. -/
theorem lines_of_call {statement format : Text} {args : List Text}
    (h : call? statement = some (format, args)) (store : Store) :
    lines store statement = .ok ((render store format args).toOption.map fun s =>
      outputLines (s.map Symbol.shown)) := by
  rw [lines, h]
  show (Print.handle passedOver (render store format args) >>= fun written => _) = _
  rw [(caught_render store format args).handle]
  rfl

/-- A print call has lines to print or has nothing to print: it never ends in an error. -/
theorem lines_eq_ok (store : Store) (statement : Text) :
    lines store statement = .ok (lines? store statement) := by
  have hlines : ∃ printed, lines store statement = .ok printed := by
    cases hcall : call? statement with
    | none =>
        rw [lines, hcall]
        exact ⟨none, rfl⟩
    | some call => exact ⟨_, lines_of_call hcall store⟩
  obtain ⟨printed, hprinted⟩ := hlines
  rw [lines?, hprinted]

/-- What is no notation of a call prints nothing. -/
theorem lines?_of_not_call {statement : Text} (h : call? statement = none) (store : Store) :
    lines? store statement = none := by
  rw [lines?, lines, h]

/-- A call prints the lines of what it renders. -/
theorem lines?_of_call {statement format : Text} {args : List Text}
    (h : call? statement = some (format, args)) (store : Store) :
    lines? store statement = (render store format args).toOption.map fun s =>
      outputLines (s.map Symbol.shown) := by
  rw [lines?, lines_of_call h]

end Print

/-- Hence a print call prints the lines that it has, as far as the transcript admits. -/
theorem Statement.exec_print (s : Settings) (draw : Nat → Float) (st : State) (call : Text) :
    (print call).exec s draw st = emitAll s st ((Print.lines? st.store call).getD []) := by
  rw [exec, Print.lines_eq_ok]

end SignalLab
