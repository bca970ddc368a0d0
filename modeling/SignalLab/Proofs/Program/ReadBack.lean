import SignalLab.Program.Execution
import SignalLab.Proofs.Expression.Notation
import SignalLab.Proofs.Fallible
import SignalLab.Proofs.Keyed
import SignalLab.Proofs.Number.Literals
import SignalLab.Proofs.Text.Calls
import SignalLab.Proofs.Text.Names
import SignalLab.Proofs.Text.Substitution
import SignalLab.Proofs.Text.Trimming

/-!
# Reading back — what an assigned name stands for

The target of an assignment is found by the characters of the program's text; the same name on a
right-hand side is found by the lexer of expressions, which has notions of its own: some words are
reserved, some word characters are no characters of names, and names are brought to one spelling.  A
number assigned to a name is read back under it exactly if the lexer takes the name for itself.
-/

namespace SignalLab

open Text

/-! ## Right-hand sides without calls -/

namespace Shape

theorem mem_of_mem_body {s : Text} {c : Char} (hc : c ∈ RangeText.body s) : c ∈ s := by
  have htrim : ∀ c ∈ trim s, c ∈ s := by
    intro c hc
    obtain ⟨front, back, hs, -⟩ := exists_eq_append_trim s
    rw [hs]
    exact List.mem_append_right _ (List.mem_append_left _ hc)
  rw [RangeText.body] at hc
  split at hc
  · exact htrim c (List.mem_of_mem_tail (List.dropLast_subset _ hc))
  · exact htrim c hc

/-- A text without colons is no range. -/
theorem rangeText_eq_none {s : Text} (h : ':' ∉ s) : RangeText.ofText? s = none := by
  have hcolon : (RangeText.body s).contains ':' = false := by
    rw [List.contains_eq_mem, decide_eq_false fun hmem => h (mem_of_mem_body hmem)]
  rw [RangeText.ofText?, hcolon]
  rfl

/-- A call has a parenthesis. -/
theorem mem_of_afterCall? {word : String} {s rest : Text} (h : afterCall? word s = some rest) :
    '(' ∈ s := by
  obtain ⟨blanks, -, rfl⟩ := afterCall?_eq_some_iff.mp h
  exact List.mem_append_right _ (List.mem_append_right _ List.mem_cons_self)

/-- Without a parenthesis there is no call to find. -/
theorem searchWord_eq_none {α : Type} {f : Text → Option α}
    (hf : ∀ rest found, f rest = some found → '(' ∈ rest) {s : Text} (h : '(' ∉ s) :
    searchWord f s = none := by
  rw [← Option.not_isSome_iff_eq_none, searchWord, isSome_search_iff]
  rintro ⟨front, rest, rfl, hfound⟩
  split at hfound
  · obtain ⟨found, hfound⟩ := Option.isSome_iff_exists.mp hfound
    exact h (List.mem_append_right _ (hf rest found hfound))
  · cases hfound

/-- A text without parentheses calls nothing. -/
theorem hasCall_eq_false {s : Text} (h : '(' ∉ s) (words : List String) :
    hasCall words s = false := by
  rw [hasCall, searchWord_eq_none _ h]
  · rfl
  · intro rest found hfound
    obtain ⟨word, -, hword⟩ := List.exists_of_findSome?_eq_some hfound
    exact mem_of_afterCall? hword

/-- It draws no random numbers either. -/
theorem randomCall?_eq_none {s : Text} (h : '(' ∉ s) : searchWord randomCall? s = none := by
  refine searchWord_eq_none (fun rest found hfound => ?_) h
  rw [randomCall?] at hfound
  split at hfound
  · rename_i behind hbehind
    rcases Option.or_eq_some_iff.mp hbehind with hcall | ⟨-, hcall⟩
    · exact mem_of_afterCall? hcall
    · exact mem_of_afterCall? hcall
  · cases hfound

/-- Without a colon and a parenthesis a right-hand side is a literal or arithmetic. -/
theorem ofText_of_not_mem {s : Text} (hcolon : ':' ∉ s) (hparenthesis : '(' ∉ s) :
    ofText s = match readLiteral? s with
      | some x => .literal x
      | none => .arithmetic s := by
  rw [ofText, rangeText_eq_none hcolon]
  show ofCall s = _
  rw [ofCall, hasCall_eq_false hparenthesis ["sin", "cos"], hasCall_eq_false hparenthesis ["fft"],
    randomCall?_eq_none hparenthesis]
  cases readLiteral? s with
  | none => rfl
  | some x => rfl

end Shape

/-! ## Assigning a literal -/

namespace Statement

/-- The statement that assigns what `expr` writes. -/
def assignmentText (name expr : Text) : Text :=
  name ++ " = ".toList ++ expr

/-- A name that an assignment may have as its target. -/
def IsTarget (name : Text) : Prop :=
  takeIdentifier? name = some (name, [])

/-- A target consists of characters of words. -/
theorem IsTarget.isWordChar {name : Text} (h : IsTarget name) :
    ∀ c ∈ name, isWordChar c = true :=
  (of_takeIdentifier? h).2

/-- No character of a target is blank. -/
theorem IsTarget.isBlank {name : Text} (h : IsTarget name) : ∀ c ∈ name, isBlank c = false :=
  fun c hc => isBlank_of_isWordChar (h.isWordChar c hc)

/-- A target is not empty. -/
theorem IsTarget.ne_nil {name : Text} (h : IsTarget name) : name ≠ [] := by
  obtain ⟨⟨c, others, rfl, -⟩, -⟩ := of_takeIdentifier? h
  exact List.cons_ne_nil _ _

/-- A right-hand side without blanks in it is read as it is written. -/
theorem rightSide?_of_no_blank {v : Text} (hv : ∀ c ∈ v, isBlank c = false) :
    rightSide? (' ' :: v) = some v := by
  have hleft : trimLeft (' ' :: v) = v :=
    trimLeft_eq_self (s := v) fun c hc => hv c (List.mem_of_head? hc)
  have hnewline : '\n' ∉ v := fun h => by cases hv _ h
  have hlast : v.getLast? ≠ some '\n' := fun h => hnewline (List.mem_of_getLast? h)
  have hline : v.contains '\n' = false := by
    rw [List.contains_eq_mem, decide_eq_false hnewline]
  rw [rightSide?, if_neg (by simp), hleft]
  simp only [if_neg hlast, hline, Bool.false_eq_true, if_false, trim_of_no_blank hv]

/-- An assignment is read as its target and its right-hand side. -/
theorem assignment?_assignmentText {name v : Text} (hname : IsTarget name)
    (hv : ∀ c ∈ v, isBlank c = false) :
    assignment? (assignmentText name v) = some (name, v) := by
  obtain ⟨⟨c, s, rfl, hc⟩, hs⟩ := of_takeIdentifier? hname
  have htarget : takeIdentifier? (assignmentText (c :: s) v) =
      some (c :: s, " = ".toList ++ v) := by
    rw [assignmentText, List.append_assoc]
    exact takeIdentifier?_append hc (fun d hd => hs d (List.mem_cons_of_mem _ hd)) (by decide) _
  have hequals : afterBlanks? '=' (" = ".toList ++ v) = some (' ' :: v) := by rfl
  simp only [assignment?, htarget, Option.bind_eq_bind, Option.bind_some, hequals,
    rightSide?_of_no_blank hv]

/-- A literal on a right-hand side is the double it writes. -/
theorem evaluateExpression_literal {v : Text} {x : Float} (hv : readLiteral? v = some x)
    (s : Settings) (draw : Nat → Float) (used : Nat) (store : Store) :
    evaluateExpression s draw used store v = .ok ⟨.scalar x, 0⟩ := by
  have hchars : ∀ c ∈ v, IsLiteralChar c := fun c hc => isLiteralChar_of_readLiteral? hv hc
  have hcolon : ':' ∉ v := fun h => ne_of_isLiteralChar (hchars _ h) (by decide) (by decide) rfl
  have hparenthesis : '(' ∉ v :=
    fun h => ne_of_isLiteralChar (hchars _ h) (by decide) (by decide) rfl
  rw [evaluateExpression, Shape.ofText_of_not_mem hcolon hparenthesis, hv]
  rfl

/-- A literal is stored as the double it writes. -/
theorem run_assignmentText (s : Settings) (draw : Nat → Float) (st : State) {name v : Text}
    {x : Float} (hname : IsTarget name) (hv : readLiteral? v = some x) :
    run s draw st (assignmentText name v) =
      ({ st with store := st.store.set name (.scalar x) }, none) := by
  have hblank : ∀ c ∈ v, isBlank c = false :=
    fun c hc => isBlank_of_isLiteralChar (isLiteralChar_of_readLiteral? hv hc)
  rw [run, ofText, assignment?_assignmentText hname hblank]
  show assignTo s draw st name v = _
  rw [assignTo, evaluateExpression_literal hv]
  rfl

end Statement

/-! ## Reading a name -/

namespace Expression

open Statement

variable {name : Text}

/-- No reserved word alone is a number. -/
theorem evalText_reservedWord {k : Keyword} (h : keyword? name = some k) (env : Environment)
    (x : Float) : evalText env name ≠ .ok x := by
  have hall : ∀ word ∈ reservedWords, (parseText? word).all (fun t => match t with
      | .literal .notNumeric => true
      | _ => false) = true := by
    decide +kernel
  have hname := hall name (mem_reservedWords h)
  intro hok
  rw [evalText, Fallible.mapError_ok_iff, valueOf] at hok
  cases hparse : parseText? name with
  | none =>
      rw [hparse] at hok
      cases hok
  | some t =>
      rw [hparse] at hok hname
      rw [Option.all_some] at hname
      split at hname
      · cases hok
      · cases hname

/-- A target is one token, if it is any. -/
theorem tokens?_word (hname : IsTarget name) :
    tokens? name = (wordToken? name).map fun token => [token] := by
  obtain ⟨⟨c, s, rfl, hc⟩, hword⟩ := of_takeIdentifier? hname
  have hlike : ∀ d ∈ c :: s, isNameLike d = true :=
    fun d hd => isNameLike_of_isWordChar (hword d hd)
  have hblank : (c :: s).head? ≠ some ' ' := by
    intro h
    rw [Option.some.inj h] at hc
    cases hc
  have hscan := scan_word (isDigit_of_isAsciiNameStart hc) hlike delimited_nil (s.length + 1) 0
  rw [List.append_nil] at hscan
  rw [tokens?_eq_scan (fun d hd => .inl (hlike d hd)) hblank, List.length_cons, hscan]
  cases wordToken? (c :: s) with
  | none => rfl
  | some token => rfl

/-- A word is parsed as it is written. -/
theorem parseText?_of_isWordChar (hword : ∀ c ∈ name, isWordChar c = true) :
    parseText? name = parse? name := by
  have hblank : ∀ d ∈ name, isBlank d = false := fun d hd => isBlank_of_isWordChar (hword d hd)
  have htrim : trim name = name := trim_of_no_blank hblank
  have hdot : '.' ∉ name := fun h => by cases hword _ h
  have hpower : '^' ∉ name := fun h => by cases hword _ h
  have hplain := plainOperators_append hdot hpower []
  have hnil : plainOperators [] = [] := rfl
  rw [List.append_nil, hnil, List.append_nil] at hplain
  rw [parseText?, htrim, hplain]

/-- So is a target. -/
theorem parseText?_word (hname : IsTarget name) : parseText? name = parse? name :=
  parseText?_of_isWordChar hname.isWordChar

/-- A target is a reserved word, a name, or no token at all. -/
theorem wordToken?_target (hname : IsTarget name) :
    wordToken? name = match keyword? name with
      | some k => some (.keyword k)
      | none => if name.all isNameContinue then some (.name (normalizeName name)) else none := by
  obtain ⟨⟨c, s, rfl, hc⟩, -⟩ := of_takeIdentifier? hname
  have hcontinue : isNameContinue c = true := by
    rw [isNameContinue, if_pos (toNat_lt_of_isAsciiNameStart hc), hc, Bool.true_or]
  rw [wordToken?.eq_def, List.all_cons, hcontinue, Bool.true_and]
  cases keyword? (c :: s) with
  | some k => rfl
  | none =>
      show (if isNameStart c && s.all isNameContinue then _ else none) = _
      rw [isNameStart_of_isAsciiNameStart hc, Bool.true_and]

/-- A target is a name unless it is a reserved word or has a character that names cannot have. -/
theorem wordToken?_eq_name_iff (hname : IsTarget name) {id : Text} :
    wordToken? name = some (.name id) ↔
      keyword? name = none ∧ name.all isNameContinue = true ∧ normalizeName name = id := by
  rw [wordToken?_target hname]
  cases keyword? name with
  | some k => simp
  | none => simp

/-- A name is parsed as the tree of a name. -/
theorem parse?_name {id : Text} (hname : IsTarget name) (h : wordToken? name = some (.name id)) :
    parse? name = some (.name id) := by
  obtain ⟨n, hn⟩ : ∃ n, 8 * (name.length + 2) = n + 2 := ⟨8 * (name.length + 2) - 2, by omega⟩
  have hexpression : expression (n + 2) powerExpression [.name id] = some (.name id, []) := by
    rw [expression_succ, operand_name]
    exact extend_nil _
  rw [parse?, tokens?_word hname, h, hn]
  show Option.bind (expression (n + 2) powerExpression [.name id]) _ = _
  rw [hexpression]
  rfl

/-- A name has the value that is bound to it. -/
theorem value_name_iff {env : Environment} {id : Text} {x : Float} :
    (Tree.name id).value env = .ok x ↔ nameValue env id = .ok (.real x) := by
  have hreal : ∀ y : Float, (Tree.name id).eval env = .ok (.real y) →
      (Tree.name id).value env = .ok y := by
    intro y hy
    rw [Tree.value, hy]
    rfl
  rw [Tree.eval] at hreal
  constructor
  · intro h
    cases hvalue : nameValue env id with
    | error cause =>
        rw [Tree.value, Tree.eval, hvalue] at h
        cases h
    | ok q =>
        obtain ⟨y, rfl⟩ : ∃ y, q = .real y := by
          rw [nameValue] at hvalue
          split at hvalue
          · exact ⟨_, (Except.ok.inj hvalue).symm⟩
          · split at hvalue
            · exact ⟨_, (Except.ok.inj hvalue).symm⟩
            · cases hvalue
        rw [hreal y hvalue] at h
        cases h
        rfl
  · exact hreal x

/-- A target has a value exactly if it is read as a name that has one. -/
theorem evalText_target_iff (hname : IsTarget name) (env : Environment) (x : Float) :
    evalText env name = .ok x ↔
      ∃ id, wordToken? name = some (.name id) ∧ nameValue env id = .ok (.real x) := by
  -- a target is no word, a word of the notation, or a name
  cases hword : wordToken? name with
  | none =>
      have hparse : parseText? name = none := by
        rw [parseText?_word hname, parse?, tokens?_word hname, hword]
        rfl
      rw [evalText, valueOf, hparse]
      refine iff_of_false (fun h => by cases h) ?_
      rintro ⟨id, hid, -⟩
      cases hid
  | some token =>
      cases hkeyword : keyword? name with
      | some k =>
          rw [wordToken?_target hname, hkeyword] at hword
          cases hword
          refine iff_of_false (evalText_reservedWord hkeyword env x) ?_
          rintro ⟨id, hid, -⟩
          cases hid
      | none =>
          obtain ⟨id, rfl⟩ : ∃ id, token = .name id := by
            rw [wordToken?_target hname, hkeyword] at hword
            simp only at hword
            split at hword
            · exact ⟨_, (Option.some.inj hword).symm⟩
            · cases hword
          rw [evalText, Fallible.mapError_ok_iff, valueOf, parseText?_word hname,
            parse?_name hname hword]
          simp only
          rw [value_name_iff]
          constructor
          · intro h
            exact ⟨id, rfl, h⟩
          · rintro ⟨id', hid, h⟩
            cases hid
            exact h

end Expression

/-! ## Read after write -/

namespace Statement

open Expression

/-- Whether the lexer of expressions takes a target for a name, and for the same one. -/
structure IsReadable (name : Text) : Prop where
  not_reserved : keyword? name = none
  chars : name.all isNameContinue = true
  spelling : normalizeName name = name

/-- Whether every finite number that is assigned to a name is stored under it, and is what the name
stands for on a right-hand side afterwards. -/
def ReadsBack (name : Text) : Prop :=
  ∀ (s : Settings) (draw : Nat → Float) (st : State) (v : Text) (x : Float),
    readLiteral? v = some x → x.isFinite = true →
    ∃ st', run s draw st (assignmentText name v) = (st', none) ∧
      st'.store.get? name = some (.scalar x) ∧
      evaluateExpression s draw st'.draws st'.store name = .ok ⟨.scalar x, 0⟩

variable {name : Text}

/-- A target on a right-hand side is arithmetic. -/
theorem ofText_target (hname : IsTarget name) : Shape.ofText name = .arithmetic name := by
  obtain ⟨⟨c, s, rfl, hc⟩, hword⟩ := of_takeIdentifier? hname
  have hcolon : ':' ∉ c :: s := fun h => by cases hword _ h
  have hparenthesis : '(' ∉ c :: s := fun h => by cases hword _ h
  rw [Shape.ofText_of_not_mem hcolon hparenthesis, readLiteral?_of_isAsciiNameStart hc]

/-- A right-hand side that is a name with a value has this value. -/
theorem evaluateExpression_target (hname : IsTarget name) {store : Store} {x : Float}
    (h : evalText store.scalars name = .ok x) (s : Settings) (draw : Nat → Float) (used : Nat) :
    evaluateExpression s draw used store name = .ok ⟨.scalar x, 0⟩ := by
  rw [evaluateExpression, ofText_target hname]
  show Shape.undrawn ((Shape.number s store name).map .scalar) = _
  rw [Shape.number, evaluate.eq_def, h]
  rfl

/-- Where failures count as zero, a target without a value is zero. -/
theorem evaluateExpression_target_of_error (hname : IsTarget name) {s : Settings}
    (hzero : s.fallback = .zero) {store : Store} (h : (evalText store.scalars name).isOk = false)
    (draw : Nat → Float) (used : Nat) :
    evaluateExpression s draw used store name = .ok ⟨.scalar 0.0, 0⟩ := by
  rw [evaluateExpression, ofText_target hname]
  show Shape.undrawn ((Shape.number s store name).map .scalar) = _
  rw [Shape.number, evaluate.eq_def, hzero]
  cases heval : evalText store.scalars name with
  | error e => rfl
  | ok y =>
      rw [heval] at h
      cases h

/-- Where failures are errors, a target that is evaluated has a value. -/
theorem evalText_of_evaluateExpression (hname : IsTarget name) {s : Settings}
    (hraise : s.fallback = .raise) {draw : Nat → Float} {used : Nat} {store : Store} {x : Float}
    (h : evaluateExpression s draw used store name = .ok ⟨.scalar x, 0⟩) :
    evalText store.scalars name = .ok x := by
  rw [evaluateExpression, ofText_target hname] at h
  replace h : Shape.undrawn ((Shape.number s store name).map .scalar) = _ := h
  rw [Shape.number, evaluate.eq_def, hraise] at h
  cases heval : evalText store.scalars name with
  | error e =>
      rw [heval] at h
      cases h
  | ok y =>
      rw [heval] at h
      cases h
      rfl

/-- A target that reads back a number of an empty store is a name of expressions, and its spelling
there is its own or that of a constant with this number. -/
theorem wordToken?_of_readsBack (hname : IsTarget name) (h : ReadsBack name) {v : Text} {x : Float}
    (hv : readLiteral? v = some x) (hx : x.isFinite = true) :
    keyword? name = none ∧ name.all isNameContinue = true ∧
      (normalizeName name = name ∨ constant? (normalizeName name) = some x) := by
  -- a store in which nothing but the target is bound, and a policy that hides no failure
  let s : Settings := { Settings.standard with fallback := .raise }
  obtain ⟨st', hrun, -, hread⟩ := h s (fun _ => 0.0) (.initial 0) v x hv hx
  rw [run_assignmentText s _ _ hname hv] at hrun
  cases hrun
  have heval := evalText_of_evaluateExpression hname rfl hread
  obtain ⟨id, hword, hvalue⟩ := (evalText_target_iff hname _ x).mp heval
  obtain ⟨hkeyword, hchars, rfl⟩ := (wordToken?_eq_name_iff hname).mp hword
  refine ⟨hkeyword, hchars, ?_⟩
  by_cases hspelling : name = normalizeName name
  · exact .inl hspelling.symm
  · -- another spelling is not bound, so that its value can only be a constant
    right
    have hfind : Keyed.find? (normalizeName name)
        ((State.initial 0).store.set name (.scalar x)).scalars = none := if_neg hspelling
    rw [nameValue, hfind] at hvalue
    simp only at hvalue
    split at hvalue
    · rename_i hconstant
      cases hvalue
      exact hconstant
    · cases hvalue

/-- A number assigned to a target is read back exactly if the target is a name of expressions in its
one spelling. -/
theorem readsBack_iff (hname : IsTarget name) : ReadsBack name ↔ IsReadable name := by
  constructor
  · intro h
    have hliterals : readLiteral? "1" = some 1.0 ∧ readLiteral? "2" = some 2.0 := by decide +kernel
    obtain ⟨hkeyword, hchars, hone⟩ :=
      wordToken?_of_readsBack hname h hliterals.1 (by decide +kernel)
    obtain ⟨-, -, htwo⟩ := wordToken?_of_readsBack hname h hliterals.2 (by decide +kernel)
    refine ⟨hkeyword, hchars, ?_⟩
    rcases hone with hspelling | hone
    · exact hspelling
    rcases htwo with hspelling | htwo
    · exact hspelling
    · -- a constant is not both numbers
      have heq : (1.0 : Float) = 2.0 := Option.some.inj (hone.symm.trans htwo)
      exact absurd heq (by decide +kernel)
  · intro h s draw st v x hv _
    refine ⟨_, run_assignmentText s draw st hname hv, Keyed.find?_assign_self, ?_⟩
    refine evaluateExpression_target hname ?_ s draw _
    rw [evalText_target_iff hname]
    refine ⟨name, (wordToken?_eq_name_iff hname).mpr ⟨h.not_reserved, h.chars, h.spelling⟩, ?_⟩
    have hfind : Keyed.find? name (st.store.set name (.scalar x)).scalars = some x :=
      Keyed.find?_collect_assign_self rfl
    rw [nameValue, hfind]

/-- A constant that is assigned to is read back. -/
theorem readsBack_of_pi : IsTarget "pi" ∧ ReadsBack "pi" := by
  have hname : IsTarget "pi" := by rfl
  exact ⟨hname, (readsBack_iff hname).mpr ⟨by decide +kernel, by decide +kernel, by decide +kernel⟩⟩

/-- A reserved word is assigned to, and stands for zero afterwards. -/
theorem reserved_word_not_read_back :
    let s := Settings.standard
    let draw (_ : Nat) : Float := 0.0
    let st : State := (run s draw (.initial 0) (assignmentText "lambda" "5")).1
    st.store.get? "lambda" = some (.scalar 5.0) ∧
    evaluateExpression s draw st.draws st.store "lambda" = .ok ⟨.scalar 0.0, 0⟩ ∧
    IsTarget "lambda" ∧ ¬ ReadsBack "lambda" := by
  intro s draw st
  have hname : IsTarget "lambda" := by rfl
  have hv : readLiteral? "5" = some 5.0 := by decide +kernel
  have hst : st = { State.initial 0 with store := Store.empty.set "lambda" (.scalar 5.0) } :=
    congrArg Prod.fst (run_assignmentText s draw (.initial 0) hname hv)
  have hread : evaluateExpression s draw st.draws st.store "lambda" = .ok ⟨.scalar 0.0, 0⟩ := by
    rw [hst]
    exact evaluateExpression_target_of_error hname rfl (by decide +kernel) draw _
  refine ⟨?_, hread, hname, ?_⟩
  · rw [hst]
    rfl
  · intro h
    obtain ⟨st', hrun, -, hback⟩ := h s draw (.initial 0) "5" 5.0 hv (by decide +kernel)
    have hst' : st = st' := congrArg Prod.fst hrun
    rw [← hst', hread] at hback
    have heq : (0.0 : Float) = 5.0 :=
      Value.scalar.inj (congrArg Shape.Drawn.value (Except.ok.inj hback))
    exact absurd heq (by decide +kernel)

end Statement

end SignalLab
