import SignalLab.Expression.Lexer
import SignalLab.Proofs.Text.Trimming
import SignalLab.Text.TopLevel

/-!
# Brackets — balanced texts and their top-level parts

A text is balanced if each of its closing brackets closes the one opened last, and none is left open
(`Text.Balanced`).  The splitter counts brackets without looking at their kinds; on a balanced text
the count is the number of open brackets, so that it cuts where none is open.  A text without quotes
is therefore balanced exactly if all its top-level parts are (`Text.balanced_iff_parts`).
-/

namespace SignalLab.Text

open Expression (closesBracket)

/-! ## Balanced texts -/

/-- The open brackets behind a character, the last one first; nothing if it is a closing bracket that
closes none of them or one of another kind. -/
def bracketStep (stack : List Char) (c : Char) : Option (List Char) :=
  if isOpening c then some (c :: stack)
  else if isClosing c then
    match stack with
    | opening :: stack => if closesBracket opening c then some stack else none
    | [] => none
  else some stack

/-- The open brackets behind a text. -/
def openBrackets (stack : List Char) (s : Text) : Option (List Char) :=
  s.foldlM bracketStep stack

/-- The brackets of a text are closed in the order opposite to the one they are opened in. -/
def Balanced (s : Text) : Prop :=
  openBrackets [] s = some []

instance (s : Text) : Decidable (Balanced s) :=
  inferInstanceAs (Decidable (openBrackets [] s = some []))

/-- Whether a character is a bracket. -/
def isBracket (c : Char) : Bool :=
  isOpening c || isClosing c

/-- What a character can do to the open brackets. -/
inductive Steps (c : Char) : List Char → List Char → Prop
  | opening {stack : List Char} (h : isOpening c = true) : Steps c stack (c :: stack)
  | closing {o : Char} {stack : List Char} (hopening : isOpening c = false)
      (hclosing : isClosing c = true) : Steps c (o :: stack) stack
  | other {stack : List Char} (h : isBracket c = false) : Steps c stack stack

theorem steps_of_bracketStep {c : Char} {stack stack' : List Char}
    (h : bracketStep stack c = some stack') : Steps c stack stack' := by
  rw [bracketStep.eq_def] at h
  split at h
  · rename_i hopening
    cases h
    exact .opening hopening
  · rename_i hopening
    split at h
    · rename_i hclosing
      split at h
      · split at h
        · cases h
          exact .closing (Bool.eq_false_iff.mpr hopening) hclosing
        · cases h
      · cases h
    · rename_i hclosing
      cases h
      exact .other (Bool.or_eq_false_iff.mpr
        ⟨Bool.eq_false_iff.mpr hopening, Bool.eq_false_iff.mpr hclosing⟩)

/-- A character that is no bracket leaves the stack. -/
theorem bracketStep_of_not_bracket {c : Char} (hc : isBracket c = false) (stack : List Char) :
    bracketStep stack c = some stack := by
  obtain ⟨hopening, hclosing⟩ := Bool.or_eq_false_iff.mp hc
  rw [bracketStep.eq_def, hopening, hclosing]
  rfl

theorem openBrackets_cons (stack : List Char) (c : Char) (s : Text) :
    openBrackets stack (c :: s) =
      (bracketStep stack c).bind fun stack => openBrackets stack s :=
  List.foldlM_cons

/-- A text is read from the stack that the front of it leaves. -/
theorem openBrackets_append (stack : List Char) (s t : Text) :
    openBrackets stack (s ++ t) =
      (openBrackets stack s).bind fun stack => openBrackets stack t :=
  List.foldlM_append

/-- A text without brackets leaves the stack. -/
theorem openBrackets_of_not_bracket {s : Text} (h : ∀ c ∈ s, isBracket c = false)
    (stack : List Char) : openBrackets stack s = some stack := by
  induction s with
  | nil => rfl
  | cons c s ih =>
      rw [openBrackets_cons, bracketStep_of_not_bracket (h c List.mem_cons_self)]
      exact ih fun d hd => h d (List.mem_cons_of_mem _ hd)

/-- Balanced texts one behind the other are balanced. -/
theorem Balanced.append {s t : Text} (hs : Balanced s) (ht : Balanced t) : Balanced (s ++ t) := by
  rw [Balanced, openBrackets_append, hs]
  exact ht

/-- No blank is a bracket. -/
theorem isBracket_of_isBlank {c : Char} (h : isBlank c = true) : isBracket c = false := by
  refine Bool.eq_false_iff.mpr fun hbracket => ?_
  simp only [isBracket, isOpening, isClosing, Bool.or_eq_true, beq_iff_eq] at hbracket
  rcases hbracket with ((rfl | rfl) | rfl) | ((rfl | rfl) | rfl) <;> cases h

/-- Blanks around a text do not matter. -/
theorem balanced_trim_iff {s : Text} : Balanced (trim s) ↔ Balanced s := by
  obtain ⟨front, back, hfront, hback, hs⟩ := exists_eq_append_trim_append s
  have hblank : ∀ {t : Text}, isBlankText t = true → ∀ stack, openBrackets stack t = some stack :=
    fun ht => openBrackets_of_not_bracket fun c hc =>
      isBracket_of_isBlank (isBlankText_iff.mp ht c hc)
  have hopen : openBrackets [] (front ++ (trim s ++ back)) = openBrackets [] (trim s) := by
    rw [openBrackets_append, hblank hfront, Option.bind_some, openBrackets_append]
    cases openBrackets [] (trim s) with
    | none => rfl
    | some stack => exact hblank hback stack
  rw [← hs] at hopen
  rw [Balanced, Balanced, hopen]

/-! ## Joining parts -/

theorem addToFirst_ne_nil (c : Char) (parts : List Text) : addToFirst c parts ≠ [] := by
  cases parts <;> exact List.cons_ne_nil _ _

/-- A text has at least one part. -/
theorem partsFrom_ne_nil (sep : Char) (quote : Option Char) (depth : Int) (s : Text) :
    partsFrom sep quote depth s ≠ [] := by
  cases s with
  | nil => exact List.cons_ne_nil _ _
  | cons c s =>
      rw [partsFrom.eq_def]
      dsimp only
      split
      · exact addToFirst_ne_nil _ _
      · repeat' split
        all_goals first | exact addToFirst_ne_nil _ _ | exact List.cons_ne_nil _ _

/-- A character in front of the first part is in front of the whole. -/
theorem join_addToFirst (sep c : Char) (parts : List Text) :
    join [sep] (addToFirst c parts) = c :: join [sep] parts := by
  cases parts with
  | nil => rfl
  | cons part parts => cases parts <;> rfl

theorem join_cons (sep : Char) (part : Text) {parts : List Text} (h : parts ≠ []) :
    join [sep] (part :: parts) = part ++ sep :: join [sep] parts := by
  obtain ⟨next, parts, rfl⟩ := List.exists_cons_of_ne_nil h
  rw [join, List.intercalate_cons_cons, List.append_assoc]
  rfl

/-- Joining the parts gives the text back. -/
theorem join_partsFrom (sep : Char) (quote : Option Char) (depth : Int) (s : Text) :
    join [sep] (partsFrom sep quote depth s) = s := by
  induction s generalizing quote depth with
  | nil => rfl
  | cons c s ih =>
      rw [partsFrom.eq_def]
      dsimp only
      split
      · rw [join_addToFirst, ih]
      · split
        · rw [join_addToFirst, ih]
        · split
          · rw [join_addToFirst, ih]
          · split
            · rw [join_addToFirst, ih]
            · split
              · rename_i hcut
                rw [join_cons sep [] (partsFrom_ne_nil _ _ _ _), ih, hcut.1, List.nil_append]
              · rw [join_addToFirst, ih]

/-- The parts, joined, are the text. -/
theorem join_splitTopLevel (sep : Char) (s : Text) : join [sep] (splitTopLevel sep s) = s :=
  join_partsFrom sep none 0 s

/-- Balanced parts are balanced with separators between them. -/
theorem Balanced.join {sep : Char} (hsep : isBracket sep = false) {parts : List Text}
    (h : ∀ part ∈ parts, Balanced part) : Balanced (join [sep] parts) := by
  induction parts with
  | nil => rfl
  | cons part parts ih =>
      obtain ⟨hpart, hrest⟩ := List.forall_mem_cons.mp h
      by_cases hne : parts = []
      · rw [hne]
        have hsingle : Text.join [sep] [part] = part := List.intercalate_singleton
        rwa [hsingle]
      · have hcut : Balanced [sep] :=
          openBrackets_of_not_bracket (List.forall_mem_singleton.mpr hsep) []
        rw [join_cons sep part hne]
        exact hpart.append (hcut.append (ih hrest))

/-! ## Parts of a balanced text -/

section Parts

variable {sep : Char} {s : Text}

/-- The depth that the splitter counts is the number of open brackets. -/
theorem partsFrom_cons_of_steps {c : Char} (hquote : isQuote c = false)
    (hsep : isBracket sep = false) {stack stack' : List Char} (h : Steps c stack stack') :
    partsFrom sep none stack.length (c :: s) =
      if c = sep ∧ stack = [] then [] :: partsFrom sep none stack'.length s
      else addToFirst c (partsFrom sep none stack'.length s) := by
  have hne : isBracket c = true → ¬ (c = sep ∧ stack = []) := by
    rintro hc ⟨rfl, -⟩
    rw [hsep] at hc
    cases hc
  rw [partsFrom, hquote, if_neg Bool.false_ne_true]
  cases h with
  | opening hopening =>
      rw [if_pos hopening, if_neg (hne (Bool.or_eq_true_iff.mpr (.inl hopening)))]
      rfl
  | @closing o _ hopening hclosing =>
      have hdepth : ((o :: stack').length : Int) - 1 = stack'.length := by
        rw [List.length_cons]
        omega
      rw [hopening, if_neg Bool.false_ne_true, if_pos hclosing,
        if_neg (hne (Bool.or_eq_true_iff.mpr (.inr hclosing))), hdepth]
  | other hc =>
      obtain ⟨hopening, hclosing⟩ := Bool.or_eq_false_iff.mp hc
      have hdepth : (stack.length : Int) = 0 ↔ stack = [] := by
        rw [Int.natCast_eq_zero, List.length_eq_zero_iff]
      rw [hopening, hclosing, if_neg Bool.false_ne_true, if_neg Bool.false_ne_true]
      simp only [hdepth]

/-- The parts of a text that closes the brackets of a stack: the first one closes them, and the
others begin where none is open. -/
theorem exists_partsFrom (hsep : isBracket sep = false) (hquotes : ∀ c ∈ s, isQuote c = false)
    {stack : List Char} (h : openBrackets stack s = some []) :
    ∃ part parts, partsFrom sep none stack.length s = part :: parts ∧
      openBrackets stack part = some [] ∧ ∀ p ∈ parts, Balanced p := by
  induction s generalizing stack with
  | nil => exact ⟨[], [], rfl, h, nofun⟩
  | cons c s ih =>
      obtain ⟨hquote, hquotes⟩ := List.forall_mem_cons.mp hquotes
      rw [openBrackets_cons] at h
      obtain ⟨stack', hstep, h⟩ := Option.bind_eq_some_iff.mp h
      obtain ⟨part, parts, hparts, hpart, hrest⟩ := ih hquotes h
      have hsteps := steps_of_bracketStep hstep
      rw [partsFrom_cons_of_steps hquote hsep hsteps, hparts]
      split
      · -- no bracket is open where the text is cut
        rename_i hcut
        obtain ⟨rfl, rfl⟩ := hcut
        rw [bracketStep_of_not_bracket hsep] at hstep
        cases hstep
        exact ⟨[], part :: parts, rfl, rfl, List.forall_mem_cons.mpr ⟨hpart, hrest⟩⟩
      · refine ⟨c :: part, parts, rfl, ?_, hrest⟩
        rw [openBrackets_cons, hstep]
        exact hpart

/-- A text without quotes is balanced exactly if its top-level parts are. -/
theorem balanced_iff_parts (hsep : isBracket sep = false) (hquotes : ∀ c ∈ s, isQuote c = false) :
    Balanced s ↔ ∀ part ∈ splitTopLevel sep s, Balanced part := by
  constructor
  · intro h
    obtain ⟨part, parts, hparts, hpart, hrest⟩ := exists_partsFrom hsep hquotes h
    have hsplit : splitTopLevel sep s = part :: parts := hparts
    rw [hsplit]
    exact List.forall_mem_cons.mpr ⟨hpart, hrest⟩
  · intro h
    rw [← join_splitTopLevel sep s]
    exact Balanced.join hsep h

end Parts

end SignalLab.Text
