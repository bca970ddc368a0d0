import SignalLab.Text.Lines

/-!
# Line breaks — how lines compose

`Text.lines` cuts at every line break, joins a carriage return with the line feed after it, and
opens no line behind a break at the very end.  The lines of a text are therefore still there when a
line feed and more text follow (`lines_prefix`), even if the text ends in a carriage return, which
that line feed then completes.  No line has a break of its own, and joining lines by line feeds
gives back all of them but perhaps an empty last one (`lines_join`).
-/

namespace SignalLab.Text

/-- Reading a character that does not begin a carriage return with its line feed. -/
theorem lines_go_cons {c : Char} {s : Text} (hpair : c = '\r' → s.head? ≠ some '\n')
    (line : Text) :
    lines.go line (c :: s) =
      if isLineBreak c then line.reverse :: lines.go [] s else lines.go (c :: line) s := by
  rw [lines.go]
  rintro rest rfl rfl
  exact hpair rfl rfl

/-- A line feed ends a line. -/
theorem lines_go_newline (line s : Text) :
    lines.go line ('\n' :: s) = line.reverse :: lines.go [] s := by
  rw [lines_go_cons (fun h => absurd h (by decide)), if_pos (by decide)]

/-- A carriage return and a line feed end one line together. -/
theorem lines_go_return_newline (line s : Text) :
    lines.go line ('\r' :: '\n' :: s) = line.reverse :: lines.go [] s := by
  rw [lines.go]

/-! ## A text and what follows it -/

/-- The lines of a text stay whatever stands behind a further line feed. -/
theorem lines_go_prefix (line p q : Text) :
    lines.go line p <+: lines.go line (p ++ '\n' :: q) := by
  fun_induction lines.go line p with
  | case1 line hempty => exact List.nil_prefix
  | case2 line hempty =>
      rw [List.nil_append, lines_go_newline]
      exact List.prefix_append [line.reverse] (lines.go [] q)
  | case3 line s ih =>
      rw [List.cons_append, List.cons_append, lines_go_return_newline]
      exact (List.prefix_cons_inj _).mpr ih
  | case4 line c s hpair hbreak ih =>
      by_cases hreturn : c = '\r' ∧ s = []
      · -- the line feed completes the carriage return at the end of `p`
        obtain ⟨rfl, rfl⟩ := hreturn
        rw [List.cons_append, List.nil_append, lines_go_return_newline]
        exact List.prefix_append [line.reverse] (lines.go [] q)
      · have hpair' : c = '\r' → (s ++ '\n' :: q).head? ≠ some '\n' := by
          rintro rfl hhead
          cases s with
          | nil => exact hreturn ⟨rfl, rfl⟩
          | cons d s =>
              cases hhead
              exact hpair s rfl rfl
        rw [List.cons_append, lines_go_cons hpair', if_pos hbreak]
        exact (List.prefix_cons_inj _).mpr ih
  | case5 line c s hpair hbreak ih =>
      have hreturn : c ≠ '\r' := by
        rintro rfl
        exact hbreak (by decide)
      rw [List.cons_append, lines_go_cons (fun h => absurd h hreturn), if_neg hbreak]
      exact ih

/-- The lines of a text are the first ones of the text with a line feed and more behind it. -/
theorem lines_prefix (p q : Text) : lines p <+: lines (p ++ '\n' :: q) :=
  lines_go_prefix [] p q

/-! ## Lines without breaks -/

/-- Whether a text has no line break. -/
def Unbroken (s : Text) : Prop :=
  ∀ c ∈ s, isLineBreak c = false

theorem unbroken_of_all {s : Text} (h : s.all (fun c => !isLineBreak c) = true) : Unbroken s := by
  intro c hc
  have hnot := List.all_eq_true.mp h c hc
  rwa [Bool.not_eq_true'] at hnot

theorem unbroken_of_mem_lines_go {line s : Text} (hline : Unbroken line) {l : Text}
    (h : l ∈ lines.go line s) : Unbroken l := by
  have hreverse : ∀ {line : Text}, Unbroken line → Unbroken line.reverse := by
    intro line hline c hc
    exact hline c (List.mem_reverse.mp hc)
  have hnil : Unbroken [] := List.forall_mem_nil _
  fun_induction lines.go line s with
  | case1 line hempty => cases h
  | case2 line hempty =>
      rw [List.mem_singleton.mp h]
      exact hreverse hline
  | case3 line s ih =>
      rcases List.mem_cons.mp h with rfl | h
      · exact hreverse hline
      · exact ih hnil h
  | case4 line c s hpair hbreak ih =>
      rcases List.mem_cons.mp h with rfl | h
      · exact hreverse hline
      · exact ih hnil h
  | case5 line c s hpair hbreak ih =>
      refine ih ?_ h
      intro d hd
      rcases List.mem_cons.mp hd with rfl | hd
      · exact Bool.eq_false_iff.mpr hbreak
      · exact hline d hd

/-- No line break is left in a line. -/
theorem unbroken_of_mem_lines {s l : Text} (h : l ∈ lines s) : Unbroken l :=
  unbroken_of_mem_lines_go (List.forall_mem_nil _) h

/-- A text without line breaks belongs to the current line. -/
theorem lines_go_append {l : Text} (hl : Unbroken l) (line s : Text) :
    lines.go line (l ++ s) = lines.go (l.reverse ++ line) s := by
  induction l generalizing line with
  | nil => rfl
  | cons c l ih =>
      have hc : isLineBreak c = false := hl c List.mem_cons_self
      have hreturn : c ≠ '\r' := by
        rintro rfl
        cases hc
      rw [List.cons_append, lines_go_cons (fun h => absurd h hreturn),
        if_neg (by rw [hc]; decide), ih (fun d hd => hl d (List.mem_cons_of_mem _ hd)),
        List.reverse_cons, List.append_assoc, List.singleton_append]

/-- A text without line breaks is one line, unless it is empty. -/
theorem lines_of_unbroken {l : Text} (hl : Unbroken l) :
    lines l = if l.isEmpty then [] else [l] := by
  have happ := lines_go_append hl [] []
  rw [List.append_nil, List.append_nil] at happ
  rw [lines, happ, lines.go, List.isEmpty_reverse, List.reverse_reverse]

/-- Lines joined by line feeds are cut apart again; only an empty last line is lost. -/
theorem lines_join {ls : List Text} (h : ∀ l ∈ ls, Unbroken l) :
    ls = lines (join ['\n'] ls) ∨ ls = lines (join ['\n'] ls) ++ [[]] := by
  induction ls with
  | nil => exact .inl rfl
  | cons l ls ih =>
      have hl : Unbroken l := h l List.mem_cons_self
      cases ls with
      | nil =>
          rw [join, List.intercalate_singleton]
          have hgo := lines_of_unbroken hl
          cases l with
          | nil => exact .inr rfl
          | cons c l => exact .inl hgo.symm
      | cons m ls =>
          have hlines : lines (join ['\n'] (l :: m :: ls)) =
              l :: lines (join ['\n'] (m :: ls)) := by
            rw [join, List.intercalate_cons_cons, List.append_assoc, List.singleton_append, lines,
              lines_go_append hl, lines_go_newline, List.append_nil, List.reverse_reverse]
            rfl
          rw [hlines, List.cons_append]
          rcases ih (fun d hd => h d (List.mem_cons_of_mem _ hd)) with heq | heq
          · exact .inl (congrArg (l :: ·) heq)
          · exact .inr (congrArg (l :: ·) heq)

end SignalLab.Text
