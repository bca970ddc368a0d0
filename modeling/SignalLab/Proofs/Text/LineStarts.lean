import SignalLab.Text.Basic

/-!
# Line starts — the first character of a line behind a gap

Lines end at line feeds only here.  `startsWith gap mark line` says that `mark` is the first
character of a line that does not belong to `gap`, and `hasStart` looks for such a line in one pass over the
text (`hasStart_true`).  The pass does not ask for anything in a line once its gap is over, so what
stands there may be replaced (`hasStart_append_cons`).
-/

namespace SignalLab.Text

/-- Whether a line has `mark` first behind characters of `gap`. -/
def startsWith (gap : Char → Bool) (mark : Char) (line : Text) : Bool :=
  (line.dropWhile gap).head? = some mark

/-- Whether some line has `mark` first behind characters of `gap`.  The text begins in the gap of a
line if `inGap`, and otherwise further back in a line. -/
def hasStart (gap : Char → Bool) (mark : Char) (inGap : Bool) : Text → Bool
  | [] => false
  | c :: s =>
    if c = '\n' then hasStart gap mark true s
    else if gap c then hasStart gap mark inGap s
    else (inGap && c = mark) || hasStart gap mark false s

/-! ## Lines -/

/-- A text has at least one part. -/
theorem splitAt_ne_nil (sep : Char) (s : Text) : splitAt sep s ≠ [] :=
  List.splitOn_ne_nil sep s

/-- A separator ends the part in front of it. -/
theorem splitAt_cons_self (sep : Char) (s : Text) :
    splitAt sep (sep :: s) = [] :: splitAt sep s := by
  rw [splitAt, List.splitOn_cons_eq_if_modifyHead, if_pos (beq_self_eq_true sep), splitAt]

/-- Any other character belongs to the first part. -/
theorem splitAt_cons_of_ne {sep c : Char} (hc : c ≠ sep) {s line : Text} {rest : List Text}
    (h : splitAt sep s = line :: rest) : splitAt sep (c :: s) = (c :: line) :: rest := by
  rw [splitAt] at h ⊢
  rw [List.splitOn_cons_eq_if_modifyHead, if_neg (by simpa using hc), h]
  rfl

/-- No separator is left in a part. -/
theorem not_mem_of_mem_splitAt {sep : Char} {s line : Text} (h : line ∈ splitAt sep s) :
    sep ∉ line := by
  induction s generalizing line with
  | nil =>
      rw [List.mem_singleton.mp h]
      exact List.not_mem_nil
  | cons c s ih =>
      by_cases hc : c = sep
      · rw [hc, splitAt_cons_self] at h
        rcases List.mem_cons.mp h with rfl | h
        · exact List.not_mem_nil
        · exact ih h
      · obtain ⟨first, rest, hs⟩ := List.exists_cons_of_ne_nil (splitAt_ne_nil sep s)
        rw [splitAt_cons_of_ne hc hs] at h
        rcases List.mem_cons.mp h with rfl | h
        · have hfirst : sep ∉ first := ih (hs ▸ List.mem_cons_self)
          intro hmem
          rcases List.mem_cons.mp hmem with heq | hmem
          · exact hc heq.symm
          · exact hfirst hmem
        · exact ih (hs ▸ List.mem_cons_of_mem _ h)

/-- One of several texts joined stands at the front or behind a separator. -/
theorem exists_join_eq_append (sep : Char) (before behind : List Text) (line : Text) :
    ∃ front back, join [sep] (before ++ line :: behind) = front ++ (line ++ back) ∧
      ∀ c, front.getLast? = some c → c = sep := by
  -- the induction is on the texts in front: without any the line stands at the front
  induction before with
  | nil =>
      cases behind with
      | nil =>
          refine ⟨[], [], ?_, fun c h => absurd h (by simp)⟩
          rw [List.append_nil]
          exact List.intercalate_singleton
      | cons next behind =>
          refine ⟨[], [sep] ++ join [sep] (next :: behind), ?_, fun c h => absurd h (by simp)⟩
          rw [List.nil_append, List.nil_append, join, List.intercalate_cons_cons,
            List.append_assoc]
          rfl
  | cons first before ih =>
      obtain ⟨front, back, heq, hlast⟩ := ih
      refine ⟨first ++ sep :: front, back, ?_, ?_⟩
      · obtain ⟨next, rest, hnext⟩ :=
          List.exists_cons_of_ne_nil (l := before ++ line :: behind) (by simp)
        rw [join, List.cons_append, hnext, List.intercalate_cons_cons, ← hnext, ← join, heq]
        simp
      · intro c h
        rw [List.getLast?_append, List.getLast?_cons, Option.some_or] at h
        cases hfront : front.getLast? with
        | none =>
            rw [hfront] at h
            exact (Option.some.inj h).symm
        | some d =>
            rw [hfront] at h
            obtain rfl : d = c := Option.some.inj h
            exact hlast d hfront

/-- A part stands at the front or behind a separator. -/
theorem exists_eq_append_of_mem_splitAt {sep : Char} {s line : Text} (h : line ∈ splitAt sep s) :
    ∃ front back, s = front ++ (line ++ back) ∧ ∀ c, front.getLast? = some c → c = sep := by
  obtain ⟨before, behind, hsplit⟩ := List.append_of_mem h
  have hjoin : join [sep] (splitAt sep s) = s := List.intercalate_splitOn sep
  rw [← hjoin, hsplit]
  exact exists_join_eq_append sep before behind line

/-! ## One pass -/

/-- A mark is looked for behind the gap. -/
theorem startsWith_cons (gap : Char → Bool) (mark c : Char) (line : Text) :
    startsWith gap mark (c :: line) =
      if gap c then startsWith gap mark line else decide (c = mark) := by
  rw [startsWith, startsWith, List.dropWhile_cons]
  split
  · rfl
  · simp

variable {gap : Char → Bool} {mark : Char} {inGap : Bool} {s : Text}

theorem hasStart_eq {line : Text} {rest : List Text} (h : splitAt '\n' s = line :: rest) :
    hasStart gap mark inGap s =
      (inGap && startsWith gap mark line || rest.any (startsWith gap mark)) := by
  induction s generalizing inGap line rest with
  | nil =>
      cases h
      rw [hasStart, startsWith]
      simp
  | cons c s ih =>
      obtain ⟨line', rest', hs⟩ := List.exists_cons_of_ne_nil (splitAt_ne_nil '\n' s)
      rw [hasStart]
      by_cases hc : c = '\n'
      · rw [hc, splitAt_cons_self, hs] at h
        cases h
        rw [if_pos hc, ih hs, Bool.true_and, List.any_cons]
        simp [startsWith]
      · rw [splitAt_cons_of_ne hc hs] at h
        cases h
        rw [if_neg hc, startsWith_cons]
        by_cases hgap : gap c = true
        · rw [if_pos hgap, if_pos hgap]
          exact ih hs
        · rw [if_neg hgap, if_neg hgap, ih hs, Bool.false_and, Bool.false_or]

/-- From the beginning of a line, the pass looks at all lines. -/
theorem hasStart_true (gap : Char → Bool) (mark : Char) (s : Text) :
    hasStart gap mark true s = (splitAt '\n' s).any (startsWith gap mark) := by
  obtain ⟨line, rest, hs⟩ := List.exists_cons_of_ne_nil (splitAt_ne_nil '\n' s)
  rw [hasStart_eq hs, hs, List.any_cons, Bool.true_and]

/-- A text without the mark may be replaced if no gap reaches across its last character. -/
theorem hasStart_append_cons {lead : Text} {c : Char} (hlead : mark ∉ lead) (hmark : c ≠ mark)
    (hbreak : c ≠ '\n') (hgap : gap c = false) (s : Text) :
    hasStart gap mark inGap (lead ++ c :: s) = hasStart gap mark false s := by
  induction lead generalizing inGap with
  | nil =>
      rw [List.nil_append, hasStart, if_neg hbreak, hgap]
      simp [hmark]
  | cons d lead ih =>
      have hd : d ≠ mark := fun heq => hlead (heq ▸ List.mem_cons_self)
      have hrest : ∀ inGap, hasStart gap mark inGap (lead ++ c :: s) = hasStart gap mark false s :=
        fun inGap => ih (fun hmem => hlead (List.mem_cons_of_mem _ hmem))
      rw [List.cons_append, hasStart, hrest, hrest, hrest]
      simp [hd]

end SignalLab.Text
