import SignalLab.Proofs.Text.Brackets

/-!
# Parts — cutting at the top level and joining undo each other

A separator cuts where no quote is open and as many brackets are closed as were opened.  The brackets
are counted without a look at their kinds or their order, so the count may fall below zero and come
back: `)(` ends at the top level and is not balanced.  Where a text stands is therefore told by two
things, the quote that is open behind it and the number of brackets outside its quotes
(`EndsAtTopLevel`).

  * `splitTopLevel_eq_iff` — the parts of a text are the texts that join to it, of which none has a
    separator at its top level and each but the last ends there.
  * `splitTopLevel_join_inverse` — joining undoes cutting, and cutting undoes joining.
-/

namespace SignalLab.Text

/-! ## Quotes and brackets -/

/-- The open quote behind a character, if there is one. -/
def quoteBehind (quote : Option Char) (c : Char) : Option Char :=
  match quote with
  | some q => if c = q then none else some q
  | none => if isQuote c then some c else none

/-- The open quote behind a text that begins inside the given quote, if any. -/
def openQuote (quote : Option Char) (s : Text) : Option Char :=
  s.foldl quoteBehind quote

/-- The characters outside quotes of a text that begins inside the given quote, if any. -/
def outsideQuotes (quote : Option Char) : Text → Text
  | [] => []
  | c :: s =>
    if quote = none ∧ isQuote c = false then c :: outsideQuotes none s
    else outsideQuotes (quoteBehind quote c) s

/-- How many more brackets a text opens than it closes. -/
def bracketDepth (s : Text) : Int :=
  s.countP isOpening - s.countP isClosing

/-- A text that begins inside the given quote, if any, and at the given depth closes its quotes and
ends at depth zero. -/
structure ClosesFrom (quote : Option Char) (depth : Int) (s : Text) : Prop where
  quotes : openQuote quote s = none
  brackets : depth + bracketDepth (outsideQuotes quote s) = 0

/-- A text closes its quotes, and outside of them it closes as many brackets as it opens. -/
structure EndsAtTopLevel (s : Text) : Prop where
  quotes : openQuote none s = none
  brackets : bracketDepth (outsideQuotes none s) = 0

instance (s : Text) : Decidable (EndsAtTopLevel s) :=
  decidable_of_iff (openQuote none s = none ∧ bracketDepth (outsideQuotes none s) = 0)
    ⟨fun h => ⟨h.1, h.2⟩, fun h => ⟨h.1, h.2⟩⟩

/-- From the top level a text that closes what is open is one that ends at the top level. -/
theorem closesFrom_zero_iff {s : Text} : ClosesFrom none 0 s ↔ EndsAtTopLevel s :=
  ⟨fun h => ⟨h.quotes, (Int.zero_add _).symm.trans h.brackets⟩,
    fun h => ⟨h.quotes, (Int.zero_add _).trans h.brackets⟩⟩

/-- Depths of texts one behind the other add up. -/
theorem bracketDepth_append (s t : Text) :
    bracketDepth (s ++ t) = bracketDepth s + bracketDepth t := by
  simp only [bracketDepth, List.countP_append]
  omega

/-- Whether a character counts depends on the quote it stands behind. -/
theorem outsideQuotes_cons (quote : Option Char) (c : Char) (s : Text) :
    outsideQuotes quote (c :: s) =
      outsideQuotes quote [c] ++ outsideQuotes (quoteBehind quote c) s := by
  rw [outsideQuotes, outsideQuotes]
  by_cases hbare : quote = none ∧ isQuote c = false
  · rw [if_pos hbare, if_pos hbare, hbare.1, quoteBehind, hbare.2]
    rfl
  · rw [if_neg hbare, if_neg hbare]
    rfl

variable {sep : Char} {quote : Option Char} {depth : Int} {c : Char} {s : Text}

theorem closesFrom_nil_iff : ClosesFrom quote depth [] ↔ quote = none ∧ depth = 0 :=
  ⟨fun h => ⟨h.quotes, (Int.add_zero _).symm.trans h.brackets⟩,
    fun h => ⟨h.1, (Int.add_zero _).trans h.2⟩⟩

/-- A character moves the state, and the rest closes from there. -/
theorem closesFrom_cons_iff :
    ClosesFrom quote depth (c :: s) ↔
      ClosesFrom (quoteBehind quote c) (depth + bracketDepth (outsideQuotes quote [c])) s := by
  have hdepth : depth + bracketDepth (outsideQuotes quote (c :: s)) =
      depth + bracketDepth (outsideQuotes quote [c]) +
        bracketDepth (outsideQuotes (quoteBehind quote c) s) := by
    rw [outsideQuotes_cons, bracketDepth_append, Int.add_assoc]
  exact ⟨fun h => ⟨h.quotes, hdepth.symm.trans h.brackets⟩,
    fun h => ⟨h.quotes, hdepth.trans h.brackets⟩⟩

/-! ## Separators at the top level -/

/-- In a text that begins inside the given quote, if any, and at the given depth no separator stands
outside quotes and at depth zero. -/
def UncutFrom (sep : Char) (quote : Option Char) (depth : Int) (s : Text) : Prop :=
  ∀ before behind, s = before ++ sep :: behind → ¬ ClosesFrom quote depth before

/-- No separator of a text stands outside quotes and at depth zero. -/
def Uncut (sep : Char) (s : Text) : Prop :=
  ∀ before behind, s = before ++ sep :: behind → ¬ EndsAtTopLevel before

/-- From the top level a text that is not cut is one without a separator there. -/
theorem uncutFrom_zero_iff : UncutFrom sep none 0 s ↔ Uncut sep s :=
  forall₃_congr fun _ _ _ => not_congr closesFrom_zero_iff

theorem uncutFrom_nil (sep : Char) (quote : Option Char) (depth : Int) :
    UncutFrom sep quote depth [] := by
  intro before behind heq
  simp at heq

/-- A character is no cut, and the rest has none from the state behind it. -/
theorem uncutFrom_cons_iff :
    UncutFrom sep quote depth (c :: s) ↔
      ¬ (quote = none ∧ depth = 0 ∧ c = sep) ∧
        UncutFrom sep (quoteBehind quote c)
          (depth + bracketDepth (outsideQuotes quote [c])) s := by
  constructor
  · intro h
    refine ⟨?_, ?_⟩
    · rintro ⟨hquote, hdepth, rfl⟩
      exact h [] s rfl (closesFrom_nil_iff.mpr ⟨hquote, hdepth⟩)
    · intro before behind heq hcloses
      exact h (c :: before) behind (congrArg (c :: ·) heq) (closesFrom_cons_iff.mpr hcloses)
  · rintro ⟨hcut, hrest⟩ before behind heq hcloses
    cases before with
    | nil =>
        obtain ⟨hquote, hdepth⟩ := closesFrom_nil_iff.mp hcloses
        exact hcut ⟨hquote, hdepth, (List.cons.inj heq).1⟩
    | cons d before =>
        obtain ⟨rfl, htail⟩ := List.cons.inj heq
        exact hrest before behind htail (closesFrom_cons_iff.mp hcloses)

/-! ## The splitter -/

/-- One bracket opens one level or closes one. -/
theorem bracketDepth_singleton (c : Char) :
    bracketDepth [c] = if isOpening c then 1 else if isClosing c then -1 else 0 := by
  have hboth : isOpening c = true → isClosing c = false := by
    intro hopening
    simp only [isOpening, Bool.or_eq_true, beq_iff_eq] at hopening
    rcases hopening with (rfl | rfl) | rfl <;> rfl
  rw [bracketDepth, List.countP_singleton, List.countP_singleton]
  by_cases hopening : isOpening c = true
  · rw [hboth hopening, hopening]
    rfl
  · rw [Bool.eq_false_iff.mpr hopening]
    cases isClosing c <;> rfl

/-- The splitter cuts at a separator that stands outside quotes and at depth zero, and nowhere else. -/
theorem partsFrom_cons (hquote : isQuote sep = false) (hbracket : isBracket sep = false)
    (quote : Option Char) (depth : Int) (c : Char) (s : Text) :
    partsFrom sep quote depth (c :: s) =
      if quote = none ∧ depth = 0 ∧ c = sep then [] :: partsFrom sep none 0 s
      else addToFirst c (partsFrom sep (quoteBehind quote c)
        (depth + bracketDepth (outsideQuotes quote [c])) s) := by
  obtain ⟨hopening, hclosing⟩ := Bool.or_eq_false_iff.mp hbracket
  rw [partsFrom.eq_def]
  cases quote with
  | some q => simp [quoteBehind, outsideQuotes, bracketDepth]
  | none =>
      by_cases hsep : c = sep
      · -- a separator is neither a quote nor a bracket, so that only the depth decides
        subst hsep
        by_cases hdepth : depth = 0
        · simp [hquote, hopening, hclosing, hdepth]
        · simp [hquote, hopening, hclosing, hdepth, quoteBehind, outsideQuotes,
            bracketDepth_singleton]
      · by_cases hc : isQuote c = true
        · simp [hc, hsep, quoteBehind, outsideQuotes, bracketDepth]
        · have hbare : outsideQuotes none [c] = [c] :=
            if_pos ⟨rfl, Bool.eq_false_iff.mpr hc⟩
          rw [hbare, bracketDepth_singleton, quoteBehind]
          by_cases hopens : isOpening c = true
          · simp [hc, hsep, hopens]
          · by_cases hcloses : isClosing c = true
            · simp [hc, hsep, hopens, hcloses, Int.sub_eq_add_neg]
            · simp [hc, hsep, hopens, hcloses]

/-- A text that is not cut is its own part. -/
theorem partsFrom_of_uncutFrom (hquote : isQuote sep = false) (hbracket : isBracket sep = false)
    (h : UncutFrom sep quote depth s) : partsFrom sep quote depth s = [s] := by
  induction s generalizing quote depth with
  | nil => rfl
  | cons c s ih =>
      obtain ⟨hcut, hrest⟩ := uncutFrom_cons_iff.mp h
      rw [partsFrom_cons hquote hbracket, if_neg hcut, ih hrest]
      rfl

/-- A text that ends at the top level is a part if a separator follows, and behind that the splitter
begins anew. -/
theorem partsFrom_append (hquote : isQuote sep = false) (hbracket : isBracket sep = false)
    (h : UncutFrom sep quote depth s) (hcloses : ClosesFrom quote depth s) (rest : Text) :
    partsFrom sep quote depth (s ++ sep :: rest) = s :: partsFrom sep none 0 rest := by
  induction s generalizing quote depth with
  | nil =>
      obtain ⟨hnone, hzero⟩ := closesFrom_nil_iff.mp hcloses
      rw [List.nil_append, partsFrom_cons hquote hbracket, if_pos ⟨hnone, hzero, rfl⟩]
  | cons c s ih =>
      obtain ⟨hcut, hrest⟩ := uncutFrom_cons_iff.mp h
      rw [List.cons_append, partsFrom_cons hquote hbracket, if_neg hcut,
        ih hrest (closesFrom_cons_iff.mp hcloses)]
      rfl

/-! ## Cuts -/

/-- Texts of which none has a separator at its top level and each but the last one ends there.  The
first one begins inside the given quote, if any, and at the given depth. -/
inductive CutFrom (sep : Char) : Option Char → Int → List Text → Prop
  | last {quote : Option Char} {depth : Int} {part : Text}
      (uncut : UncutFrom sep quote depth part) : CutFrom sep quote depth [part]
  | cons {quote : Option Char} {depth : Int} {part : Text} {parts : List Text}
      (uncut : UncutFrom sep quote depth part) (closes : ClosesFrom quote depth part)
      (rest : CutFrom sep none 0 parts) : CutFrom sep quote depth (part :: parts)

variable {parts : List Text}

theorem CutFrom.ne_nil (h : CutFrom sep quote depth parts) : parts ≠ [] := by
  cases h <;> exact List.cons_ne_nil _ _

/-- A character that is no cut belongs to the first part. -/
theorem CutFrom.addToFirst (hcut : ¬ (quote = none ∧ depth = 0 ∧ c = sep))
    (h : CutFrom sep (quoteBehind quote c) (depth + bracketDepth (outsideQuotes quote [c])) parts) :
    CutFrom sep quote depth (addToFirst c parts) := by
  cases h with
  | last uncut => exact .last (uncutFrom_cons_iff.mpr ⟨hcut, uncut⟩)
  | cons uncut closes rest =>
      exact .cons (uncutFrom_cons_iff.mpr ⟨hcut, uncut⟩) (closesFrom_cons_iff.mpr closes) rest

/-- The parts of a text are cut from where it is read. -/
theorem cutFrom_partsFrom (hquote : isQuote sep = false) (hbracket : isBracket sep = false)
    (quote : Option Char) (depth : Int) (s : Text) :
    CutFrom sep quote depth (partsFrom sep quote depth s) := by
  induction s generalizing quote depth with
  | nil => exact .last (uncutFrom_nil sep quote depth)
  | cons c s ih =>
      rw [partsFrom_cons hquote hbracket]
      by_cases hcut : quote = none ∧ depth = 0 ∧ c = sep
      · rw [if_pos hcut]
        exact .cons (uncutFrom_nil sep quote depth)
          (closesFrom_nil_iff.mpr ⟨hcut.1, hcut.2.1⟩) (ih none 0)
      · rw [if_neg hcut]
        exact (ih _ _).addToFirst hcut

/-- Parts that are cut from a state are the parts of what they join to. -/
theorem CutFrom.partsFrom_join (hquote : isQuote sep = false) (hbracket : isBracket sep = false)
    (h : CutFrom sep quote depth parts) :
    partsFrom sep quote depth (join [sep] parts) = parts := by
  induction h with
  | last uncut =>
      rw [join, List.intercalate_singleton]
      exact partsFrom_of_uncutFrom hquote hbracket uncut
  | cons uncut closes rest ih =>
      rw [join_cons sep _ rest.ne_nil, partsFrom_append hquote hbracket uncut closes, ih]

/-- At the top level every part but the last ends where a cut can be. -/
theorem cutFrom_zero_iff :
    CutFrom sep none 0 parts ↔
      parts ≠ [] ∧ (∀ part ∈ parts, Uncut sep part) ∧
        ∀ part ∈ parts.dropLast, EndsAtTopLevel part := by
  induction parts with
  | nil => exact iff_of_false (fun h => h.ne_nil rfl) fun h => h.1 rfl
  | cons part parts ih =>
      constructor
      · intro h
        cases h with
        | last uncut => simp [uncutFrom_zero_iff.mp uncut]
        | cons uncut closes rest =>
            obtain ⟨hne, huncut, hends⟩ := ih.mp rest
            rw [List.dropLast_cons_of_ne_nil hne]
            exact ⟨List.cons_ne_nil _ _,
              List.forall_mem_cons.mpr ⟨uncutFrom_zero_iff.mp uncut, huncut⟩,
              List.forall_mem_cons.mpr ⟨closesFrom_zero_iff.mp closes, hends⟩⟩
      · rintro ⟨-, huncut, hends⟩
        obtain ⟨hpart, huncut⟩ := List.forall_mem_cons.mp huncut
        by_cases hne : parts = []
        · rw [hne]
          exact .last (uncutFrom_zero_iff.mpr hpart)
        · rw [List.dropLast_cons_of_ne_nil hne] at hends
          obtain ⟨hfirst, hends⟩ := List.forall_mem_cons.mp hends
          exact .cons (uncutFrom_zero_iff.mpr hpart) (closesFrom_zero_iff.mpr hfirst)
            (ih.mpr ⟨hne, huncut, hends⟩)

/-- The parts of a text are the texts that join to it, of which none has a separator at its top level
and each but the last one ends there. -/
theorem splitTopLevel_eq_iff (hquote : isQuote sep = false) (hbracket : isBracket sep = false) :
    splitTopLevel sep s = parts ↔
      join [sep] parts = s ∧ parts ≠ [] ∧ (∀ part ∈ parts, Uncut sep part) ∧
        ∀ part ∈ parts.dropLast, EndsAtTopLevel part := by
  rw [← cutFrom_zero_iff]
  constructor
  · rintro rfl
    exact ⟨join_splitTopLevel sep s, cutFrom_partsFrom hquote hbracket none 0 s⟩
  · rintro ⟨rfl, hcut⟩
    exact hcut.partsFrom_join hquote hbracket

/-- A text is its only part exactly if it has no separator at its top level. -/
theorem splitTopLevel_eq_self_iff (hquote : isQuote sep = false)
    (hbracket : isBracket sep = false) : splitTopLevel sep s = [s] ↔ Uncut sep s := by
  rw [splitTopLevel_eq_iff hquote hbracket]
  simp [join]

/-- Joining the parts of a text gives it back, and none of them has further parts.  In the other
direction, texts that end at the top level and have no separator there are the parts of what they
join to. -/
theorem splitTopLevel_join_inverse (hquote : isQuote sep = false)
    (hbracket : isBracket sep = false) :
    (∀ s, join [sep] (splitTopLevel sep s) = s ∧
      ∀ part ∈ splitTopLevel sep s, splitTopLevel sep part = [part]) ∧
    ∀ parts, parts ≠ [] → (∀ part ∈ parts, EndsAtTopLevel part ∧ Uncut sep part) →
      splitTopLevel sep (join [sep] parts) = parts := by
  refine ⟨fun s => ?_, fun parts hne hparts => ?_⟩
  · obtain ⟨hjoin, -, huncut, -⟩ := (splitTopLevel_eq_iff (s := s) hquote hbracket).mp rfl
    exact ⟨hjoin, fun part hpart =>
      (splitTopLevel_eq_self_iff hquote hbracket).mpr (huncut part hpart)⟩
  · refine (splitTopLevel_eq_iff hquote hbracket).mpr ⟨rfl, hne, fun part hpart => ?_,
      fun part hpart => ?_⟩
    · exact (hparts part hpart).2
    · exact (hparts part (List.dropLast_subset parts hpart)).1

/-- Brackets that are not balanced, a separator in brackets and one in quotes, and an empty part; and a
text that ends inside quotes behind a bracket that nothing opened. -/
theorem splitTopLevel_join_inverse_of_marks :
    let parts : List Text := [")(", "f(a,b)", "'x,(y'", ""]
    let s : Text := "f,]g,'h,i"
    isQuote ',' = false ∧ isBracket ',' = false ∧ parts ≠ [] ∧
    (∀ part ∈ parts, EndsAtTopLevel part ∧ Uncut ',' part) ∧
    splitTopLevel ',' ")(,f(a,b),'x,(y'," = parts ∧
    splitTopLevel ',' s = ["f".toList, "]g,'h,i".toList] ∧
    join [','] (splitTopLevel ',' s) = s ∧ splitTopLevel ',' "]g,'h,i" = ["]g,'h,i".toList] := by
  intro parts s
  have hquote : isQuote ',' = false := by decide
  have hbracket : isBracket ',' = false := by decide
  have hparts : ∀ part ∈ parts, EndsAtTopLevel part ∧ Uncut ',' part := by
    have halone : ∀ part ∈ parts, EndsAtTopLevel part ∧ splitTopLevel ',' part = [part] := by
      decide
    intro part hpart
    exact ⟨(halone part hpart).1,
      (splitTopLevel_eq_self_iff hquote hbracket).mp (halone part hpart).2⟩
  have hsplit : splitTopLevel ',' s = ["f".toList, "]g,'h,i".toList] := by decide
  obtain ⟨hcut, hjoin⟩ := splitTopLevel_join_inverse hquote hbracket
  exact ⟨hquote, hbracket, List.cons_ne_nil _ _, hparts, hjoin parts (List.cons_ne_nil _ _) hparts,
    hsplit, (hcut s).1, (hcut s).2 "]g,'h,i" (by rw [hsplit]; simp)⟩

end SignalLab.Text
