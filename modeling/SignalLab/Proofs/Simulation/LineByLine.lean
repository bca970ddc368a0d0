import SignalLab.Proofs.Simulation.Simultaneous

/-!
# Line by line — where sanitizing keeps the lines of a program apart

Shell escapes are marked in each line alone, but the blanks between a denied name and its parenthesis
may be line feeds, and blocking the call drops them.  `CallAcross a b` says that a call begins in
`a` and has its parenthesis in `b`, the two being joined by a line feed.  Without one the two are
sanitized each on its own, and with one they never are (`sanitize_lines_iff`).
-/

namespace SignalLab.DenyList

open Text

/-! ## Passes over two texts -/

/-- Whether every call that begins in `front` ends there too, when `s` follows. -/
def Apart (ns : List String) (before : Option Char) (front s : Text) : Prop :=
  ∀ u v, front = u ++ v → v ≠ [] → ∀ name ∈ ns, ∀ rest,
    callAt? name (u.getLast?.or before) (v ++ s) = some rest →
      ∃ rest', callAt? name (u.getLast?.or before) v = some rest'

theorem Apart.behind {ns : List String} {before : Option Char} {front s : Text} (u : Text)
    (h : Apart ns before (u ++ front) s) : Apart ns (u.getLast?.or before) front s := by
  intro u' v hfront hv name hname rest hcall
  rw [← Option.or_assoc, ← List.getLast?_append] at hcall ⊢
  exact h (u ++ u') v (by rw [hfront, List.append_assoc]) hv name hname rest hcall

/-- Text behind a call does not change it. -/
theorem callAt?_append {name : String} {before : Option Char} {s rest : Text}
    (h : callAt? name before s = some rest) (t : Text) :
    callAt? name before (s ++ t) = some (rest ++ t) := by
  obtain ⟨hmay, blanks, hblanks, rfl⟩ := callAt?_eq_some_iff.mp h
  exact callAt?_eq_some_iff.mpr ⟨hmay, blanks, hblanks, by simp⟩

/-- The pass over two texts that no call connects is one pass over each. -/
theorem blockAllFrom_append_of_apart {ns : List String} (hns : ns ⊆ names)
    {before : Option Char} {front s : Text} (h : Apart ns before front s) :
    blockAllFrom ns before (front ++ s) =
      blockAllFrom ns before front ++ blockAllFrom ns (front.getLast?.or before) s := by
  fun_induction blockAllFrom ns before front with
  | case1 before => rfl
  | case2 before c front name rest hcall ih =>
      obtain ⟨hmem, hcalled⟩ := (anyCallAt?_eq_some_iff hns).mp hcall
      obtain ⟨-, blanks, -, hfront⟩ := callAt?_eq_some_iff.mp hcalled
      have hcut : c :: front = (name.toList ++ (blanks ++ ['('])) ++ rest := by simp [hfront]
      have hlast : (name.toList ++ (blanks ++ ['('])).getLast?.or before = some '(' := by
        rw [← List.append_assoc, List.getLast?_concat, Option.some_or]
      have hrest : Apart ns (some '(') rest s := by
        rw [hcut] at h
        exact hlast ▸ h.behind _
      have hcall' : anyCallAt? ns before (c :: front ++ s) = some (name, rest ++ s) :=
        (anyCallAt?_eq_some_iff hns).mpr ⟨hmem, callAt?_append hcalled s⟩
      rw [blockAllFrom_of_call hcall', ih hrest, List.append_assoc, hcut, List.getLast?_append,
        Option.or_assoc, hlast]
  | case3 before c front hnone ih =>
      have hnone' : anyCallAt? ns before (c :: front ++ s) = none := by
        refine anyCallAt?_eq_none_iff.mpr fun name hname => ?_
        refine Option.eq_none_iff_forall_ne_some.mpr fun rest hcall => ?_
        obtain ⟨rest', hcall'⟩ := h [] (c :: front) rfl (List.cons_ne_nil _ _) name hname rest hcall
        cases (anyCallAt?_eq_none_iff.mp hnone name hname).symm.trans hcall'
      have hrest : Apart ns (some c) front s := Apart.behind [c] h
      rw [List.cons_append] at hnone' ⊢
      rw [blockAllFrom_of_none hnone', ih hrest, getLast?_cons_or, List.cons_append]

/-! ## Calls across a line feed -/

/-- Whether a text ends with a denied name that may be called, and perhaps blanks behind it. -/
def EndsWithName (s : Text) : Prop :=
  ∃ name ∈ names, ∃ front blanks, s = front ++ (name.toList ++ blanks) ∧
    (∀ b ∈ blanks, isBlank b = true) ∧ mayBegin front.getLast? = true

/-- Whether a call begins in the first text and has its parenthesis in the second, a line feed being
between them. -/
def CallAcross (a b : Text) : Prop :=
  EndsWithName a ∧ (trimLeft b).head? = some '('

theorem head?_trimLeft_eq_some_iff {c : Char} (hc : isBlank c = false) {s : Text} :
    (trimLeft s).head? = some c ↔
      ∃ blanks rest, (∀ b ∈ blanks, isBlank b = true) ∧ s = blanks ++ c :: rest := by
  constructor
  · intro h
    refine ⟨s.takeWhile isBlank, (trimLeft s).tail, List.all_eq_true.mp List.all_takeWhile, ?_⟩
    rw [List.cons_head?_tail h, trimLeft, List.takeWhile_append_dropWhile]
  · rintro ⟨blanks, rest, hblanks, rfl⟩
    rw [trimLeft, List.dropWhile_append_of_pos hblanks,
      List.dropWhile_cons_of_neg (by rw [hc]; decide), List.head?_cons]

/-- A call behind which a line feed and more text stand is one already in the first text, or goes
across the line feed. -/
theorem callAt?_append_newline {name : String} (hname : name ∈ names) {before : Option Char}
    {v b rest : Text} (h : callAt? name before (v ++ '\n' :: b) = some rest) :
    (∃ rest', callAt? name before v = some rest') ∨
      ∃ blanks, v = name.toList ++ blanks ∧ (∀ c ∈ blanks, isBlank c = true) ∧
        (trimLeft b).head? = some '(' := by
  obtain ⟨hmay, blanks, hblanks, heq⟩ := callAt?_eq_some_iff.mp h
  have hplace : v ++ '\n' :: b = (name.toList ++ blanks) ++ '(' :: rest := by
    rw [heq, List.append_assoc]
  rcases List.append_eq_append_iff.mp hplace with ⟨w, hw, hb⟩ | ⟨w, rfl, hw⟩
  · right
    rcases List.cons_eq_append_iff.mp hb with ⟨rfl, hmark⟩ | ⟨blanks', rfl, hbehind⟩
    · exact absurd (List.cons.inj hmark).1 (by decide)
    rcases List.append_eq_append_iff.mp hw with ⟨front, rfl, hfront⟩ | ⟨tail, htail, hcut⟩
    · rw [hfront, List.forall_mem_append, List.forall_mem_cons] at hblanks
      exact ⟨front, rfl, hblanks.1,
        (head?_trimLeft_eq_some_iff (by decide)).mpr ⟨blanks', rest, hblanks.2.2, hbehind⟩⟩
    · -- the line feed is no character of the name, so it stands behind it
      cases tail with
      | nil =>
          rw [List.append_nil] at htail
          rw [List.nil_append] at hcut
          rw [← hcut, List.forall_mem_cons] at hblanks
          exact ⟨[], by rw [htail, List.append_nil], List.forall_mem_nil _,
            (head?_trimLeft_eq_some_iff (by decide)).mpr ⟨blanks', rest, hblanks.2, hbehind⟩⟩
      | cons c tail =>
          obtain ⟨rfl, -⟩ := List.cons.inj hcut
          have hword := ((names_plain name hname).2 '\n' (by rw [htail]; simp)).1
          exact absurd hword (by decide)
  · left
    rcases List.cons_eq_append_iff.mp hw with ⟨rfl, hmark⟩ | ⟨rest', rfl, -⟩
    · exact absurd (List.cons.inj hmark).1 (by decide)
    · exact ⟨rest', callAt?_eq_some_iff.mpr ⟨hmay, blanks, hblanks, List.append_assoc _ _ _⟩⟩

/-- Two texts are apart at a line feed, unless the first ends with a denied name and the second begins
with a parenthesis. -/
theorem apart_newline {a b : Text} (h : ¬ CallAcross a b) :
    Apart names none a ('\n' :: b) := by
  rintro u v rfl hv name hname rest hcall
  rcases callAt?_append_newline hname hcall with hwithin | ⟨blanks, rfl, hblanks, hb⟩
  · exact hwithin
  · rw [Option.or_none] at hcall
    exact absurd ⟨⟨name, hname, u, blanks, rfl, hblanks, (callAt?_eq_some_iff.mp hcall).1⟩, hb⟩ h

/-- A text is apart from a word that a call may begin with: no call goes on over its beginning. -/
theorem apart_word {ns : List String} (hns : ns ⊆ names) {before : Option Char} {front s : Text}
    {c : Char} (hc : isWordChar c = true) (hmay : mayBegin (front.getLast?.or before) = true) :
    Apart ns before front (c :: s) := by
  rintro u v rfl hv name hname rest hcall
  obtain ⟨hbegin, blanks, hblanks, heq⟩ := callAt?_eq_some_iff.mp hcall
  have hplace : v ++ c :: s = (name.toList ++ (blanks ++ ['('])) ++ rest := by simp [heq]
  rcases List.append_eq_append_iff.mp hplace with ⟨_ | ⟨d, w⟩, hw, hs⟩ | ⟨rest', rfl, -⟩
  · rw [List.append_nil] at hw
    exact ⟨[], callAt?_eq_some_iff.mpr ⟨hbegin, blanks, hblanks, hw.symm⟩⟩
  · exfalso
    obtain ⟨rfl, -⟩ := List.cons.inj hs
    rcases List.append_eq_append_iff.mp hw with ⟨front, rfl, hfront⟩ | ⟨tail, htail, hcut⟩
    · -- behind the name of the call there are blanks and the parenthesis, which are in no word
      have hmem : c ∈ blanks ++ ['('] := hfront ▸ List.mem_append_right _ List.mem_cons_self
      rcases List.mem_append.mp hmem with hmem | hmem
      · rw [isWordChar_of_isBlank (hblanks c hmem)] at hc
        cases hc
      · rw [List.mem_singleton.mp hmem] at hc
        exact absurd hc (by decide)
    · -- within the name a character of the word stands before the place
      obtain ⟨v, e, rfl⟩ := (List.eq_nil_or_concat' v).resolve_left hv
      have he : isWordChar e = true :=
        ((names_plain name (hns hname)).2 e (by rw [htail]; simp)).1
      rw [← List.append_assoc, List.getLast?_concat, Option.some_or,
        mayBegin_of_isWordChar he] at hmay
      cases hmay
  · exact ⟨rest', callAt?_eq_some_iff.mpr ⟨hbegin, blanks, hblanks, by simp⟩⟩

/-! ## Sanitizing two texts -/

theorem markEscapes_append_newline (a b : Text) :
    markEscapes (a ++ '\n' :: b) = markEscapes a ++ '\n' :: markEscapes b := by
  have hlines : splitAt '\n' (markEscapes (a ++ '\n' :: b)) =
      splitAt '\n' (markEscapes a ++ '\n' :: markEscapes b) := by
    rw [splitAt_markEscapes, splitAt, splitAt, List.splitOn_append_cons_self,
      List.splitOn_append_cons_self, List.map_append, ← splitAt, ← splitAt, ← splitAt, ← splitAt,
      splitAt_markEscapes, splitAt_markEscapes]
  have hjoin : ∀ s : Text, join ['\n'] (splitAt '\n' s) = s := fun s => List.intercalate_splitOn '\n'
  rw [← hjoin (markEscapes (a ++ '\n' :: b)), hlines, hjoin]

theorem sanitize_eq_blockAll (s : Text) : sanitize s = blockAll names (markEscapes s) :=
  foldl_block_eq_blockAll (List.Subset.refl names) (markEscapes s)

/-- What is before a text counts only as far as a call may begin after it. -/
theorem blockAllFrom_of_mayBegin {ns : List String} {before : Option Char}
    (hmay : mayBegin before = true) (s : Text) :
    blockAllFrom ns before s = blockAllFrom ns none s := by
  have hcalls : ∀ name, callAt? name before = callAt? name none := by
    intro name
    funext s
    rw [callAt?, callAt?, hmay]
    rfl
  have hany : anyCallAt? ns before s = anyCallAt? ns none s := by
    simp only [anyCallAt?, hcalls]
  cases s with
  | nil => rw [blockAllFrom, blockAllFrom]
  | cons c s =>
      cases hfirst : anyCallAt? ns none (c :: s) with
      | none => rw [blockAllFrom_of_none hfirst, blockAllFrom_of_none (hany.trans hfirst)]
      | some found =>
          obtain ⟨name, rest⟩ := found
          rw [blockAllFrom_of_call hfirst, blockAllFrom_of_call (hany.trans hfirst)]

/-- A line feed begins no call, and behind it the text goes on as at the very beginning. -/
theorem blockAllFrom_newline (before : Option Char) (s : Text) :
    blockAllFrom names before ('\n' :: s) = '\n' :: blockAllFrom names none s := by
  have hnone : anyCallAt? names before ('\n' :: s) = none := by
    refine anyCallAt?_eq_none_iff.mpr fun name hname => ?_
    refine Option.eq_none_iff_forall_ne_some.mpr fun rest hcall => ?_
    have hword := takeWhile_of_callAt? hname hcall
    exact (names_plain name hname).1 hword.symm
  rw [blockAllFrom_of_none hnone, blockAllFrom_of_mayBegin (mayBegin_of_isBlank (by decide))]

/-- Without a parenthesis nothing is called. -/
theorem blockAllFrom_eq_self {ns : List String} {before : Option Char} {s : Text}
    (h : '(' ∉ s) : blockAllFrom ns before s = s := by
  have hnone : ∀ u v, s = u ++ v → v ≠ [] →
      anyCallAt? ns (u.getLast?.or before) (v ++ []) = none := by
    rintro u v rfl -
    refine anyCallAt?_eq_none_iff.mpr fun name _ => ?_
    refine Option.eq_none_iff_forall_ne_some.mpr fun rest hcall => ?_
    obtain ⟨-, blanks, -, heq⟩ := callAt?_eq_some_iff.mp hcall
    rw [List.append_nil] at heq
    exact h (by simp [heq])
  have hcopy := blockAllFrom_append hnone
  rwa [blockAllFrom, List.append_nil] at hcopy

/-- Two texts without a call across the line feed between them are blocked each on its own. -/
theorem blockAll_append_newline {a b : Text} (h : ¬ CallAcross a b) :
    blockAll names (a ++ '\n' :: b) = blockAll names a ++ '\n' :: blockAll names b := by
  rw [blockAll, blockAllFrom_append_of_apart (List.Subset.refl names) (apart_newline h),
    blockAllFrom_newline]
  rfl

/-- A call across the line feed is blocked as a whole, and what is before it on its own. -/
theorem blockAll_of_callAcross {a b : Text} (h : CallAcross a b) :
    ∃ name ∈ names, ∃ front blanks blanks' rest,
      a = front ++ (name.toList ++ blanks) ∧ b = blanks' ++ '(' :: rest ∧
      blockAll names a = blockAll names front ++ (name.toList ++ blanks) ∧
      blockAll names (a ++ '\n' :: b) =
        blockAll names front ++ (blockedCall name ++ blockAllFrom names (some '(') rest) := by
  obtain ⟨⟨name, hname, front, blanks, rfl, hblanks, hmay⟩, hb⟩ := h
  obtain ⟨blanks', rest, hblanks', rfl⟩ := (head?_trimLeft_eq_some_iff (by decide)).mp hb
  obtain ⟨c, cs, hcs⟩ := List.exists_cons_of_ne_nil (names_plain name hname).1
  have hc : isWordChar c = true := ((names_plain name hname).2 c (hcs ▸ List.mem_cons_self)).1
  -- the text behind the front begins with a word, so the front is passed on its own
  have hfront : ∀ t : Text, blockAll names (front ++ (name.toList ++ t)) =
      blockAll names front ++ blockAllFrom names none (name.toList ++ t) := by
    intro t
    have hapart : Apart names none front (c :: (cs ++ t)) :=
      apart_word (List.Subset.refl names) hc (by rwa [Option.or_none])
    rw [hcs, List.cons_append, blockAll, blockAllFrom_append_of_apart (List.Subset.refl names) hapart,
      Option.or_none, blockAllFrom_of_mayBegin hmay, blockAll]
  refine ⟨name, hname, front, blanks, blanks', rest, rfl, rfl, ?_, ?_⟩
  · rw [hfront, blockAllFrom_eq_self]
    intro hmem
    rcases List.mem_append.mp hmem with hmem | hmem
    · exact absurd ((names_plain name hname).2 _ hmem).1 (by decide)
    · exact absurd (hblanks _ hmem) (by decide)
  · have hcall : callAt? name none (name.toList ++ (blanks ++ '\n' :: (blanks' ++ '(' :: rest))) =
        some rest := by
      refine callAt?_eq_some_iff.mpr ⟨rfl, blanks ++ '\n' :: blanks', ?_, by simp⟩
      rw [List.forall_mem_append, List.forall_mem_cons]
      exact ⟨hblanks, by decide, hblanks'⟩
    have hany := (anyCallAt?_eq_some_iff (List.Subset.refl names)).mpr ⟨hname, hcall⟩
    rw [List.append_assoc, List.append_assoc, hfront, blockAllFrom_of_call hany]

/-- A text is sanitized on both sides of a line feed on its own exactly if no call goes across it. -/
theorem sanitize_append_newline_iff (a b : Text) :
    sanitize (a ++ '\n' :: b) = sanitize a ++ '\n' :: sanitize b ↔
      ¬ CallAcross (markEscapes a) (markEscapes b) := by
  rw [sanitize_eq_blockAll, sanitize_eq_blockAll, sanitize_eq_blockAll, markEscapes_append_newline]
  refine ⟨fun heq hacross => ?_, blockAll_append_newline⟩
  -- the blocking word stands where the name stood
  obtain ⟨name, hname, front, blanks, blanks', rest, ha, hb, halone, hboth⟩ :=
    blockAll_of_callAcross hacross
  rw [hboth, halone, List.append_assoc, List.append_right_inj] at heq
  obtain ⟨c, cs, hcs⟩ := List.exists_cons_of_ne_nil (names_plain name hname).1
  rw [hcs] at heq
  have hhead : 'B' = c := (List.cons.inj heq).1
  exact ((names_plain name hname).2 c (hcs ▸ List.mem_cons_self)).2 hhead.symm

/-! ## Lines -/

theorem length_splitAt (sep : Char) (s : Text) : (splitAt sep s).length = s.count sep + 1 := by
  induction s with
  | nil => rfl
  | cons c s ih =>
      by_cases hc : c = sep
      · rw [hc, splitAt_cons_self, List.length_cons, ih, List.count_cons_self]
      · obtain ⟨line, rest, hs⟩ := List.exists_cons_of_ne_nil (splitAt_ne_nil sep s)
        rw [splitAt_cons_of_ne hc hs, List.count_cons_of_ne hc, ← ih, hs]
        rfl

theorem count_markEscapes (s : Text) : (markEscapes s).count '\n' = s.count '\n' := by
  have hlength := congrArg List.length (splitAt_markEscapes s)
  rw [List.length_map, length_splitAt, length_splitAt] at hlength
  exact Nat.succ.inj hlength

theorem count_blockedCall {name : String} (hname : name ∈ names) :
    (blockedCall name).count '\n' = 0 := by
  refine List.count_eq_zero.mpr fun hmem => ?_
  rcases List.mem_append.mp hmem with hmem | hmem
  · rcases List.mem_append.mp hmem with hmem | hmem
    · exact absurd (blockedLead_word _ hmem) (by decide)
    · exact absurd ((names_plain name hname).2 _ hmem).1 (by decide)
  · exact absurd hmem (by decide)

/-- Blocking makes no line feeds. -/
theorem count_blockAllFrom_le (before : Option Char) (s : Text) :
    (blockAllFrom names before s).count '\n' ≤ s.count '\n' := by
  fun_induction blockAllFrom names before s with
  | case1 before => exact Nat.le_refl _
  | case2 before c s name rest hcall ih =>
      obtain ⟨hname, hcalled⟩ := exists_of_anyCallAt? hcall
      obtain ⟨-, blanks, -, hs⟩ := callAt?_eq_some_iff.mp hcalled
      rw [List.count_append, count_blockedCall hname, Nat.zero_add, hs, List.count_append,
        List.count_append, List.count_cons_of_ne (by decide)]
      omega
  | case3 before c s hnone ih =>
      rw [List.count_cons, List.count_cons]
      omega

/-- A call across a line feed loses at least this one. -/
theorem count_blockAll_lt {a b : Text} (h : CallAcross a b) :
    (blockAll names (a ++ '\n' :: b)).count '\n' < (a ++ '\n' :: b).count '\n' := by
  obtain ⟨name, hname, front, blanks, blanks', rest, rfl, rfl, -, hboth⟩ := blockAll_of_callAcross h
  have hfront := count_blockAllFrom_le none front
  have hrest := count_blockAllFrom_le (some '(') rest
  rw [hboth, blockAll]
  simp only [List.count_append, List.count_cons_self, count_blockedCall hname,
    List.count_cons_of_ne (show '(' ≠ '\n' by decide)]
  omega

/-- Whether some call has its name and its parenthesis on different lines. -/
def HasCallAcross (s : Text) : Prop :=
  ∃ a b, s = a ++ '\n' :: b ∧ CallAcross a b

theorem HasCallAcross.behind {line rest : Text} (h : HasCallAcross rest) :
    HasCallAcross (line ++ '\n' :: rest) := by
  obtain ⟨a, b, rfl, ⟨name, hname, front, blanks, rfl, hblanks, hmay⟩, hb⟩ := h
  refine ⟨line ++ '\n' :: (front ++ (name.toList ++ blanks)), b, by simp,
    ⟨name, hname, line ++ '\n' :: front, blanks, by simp, hblanks, ?_⟩, hb⟩
  rw [List.getLast?_append, List.getLast?_cons, Option.some_or]
  cases hlast : front.getLast? with
  | none => exact mayBegin_of_isBlank (by decide)
  | some c => rwa [hlast] at hmay

theorem newline_not_mem_sanitize {line : Text} (h : '\n' ∉ line) : '\n' ∉ sanitize line := by
  have hle := count_blockAllFrom_le none (markEscapes line)
  rw [← blockAll, ← sanitize_eq_blockAll, count_markEscapes, List.count_eq_zero.mpr h] at hle
  exact List.count_eq_zero.mp (Nat.le_zero.mp hle)

/-- Without a call over several lines, sanitizing a text is sanitizing its lines. -/
theorem splitAt_sanitize {s : Text} (h : ¬ HasCallAcross (markEscapes s)) :
    splitAt '\n' (sanitize s) = (splitAt '\n' s).map sanitize := by
  have hsingle : ∀ line : Text, '\n' ∉ line → splitAt '\n' line = [line] :=
    fun line hline => List.splitOn_eq_singleton hline
  have hcons : ∀ line rest : Text, '\n' ∉ line →
      splitAt '\n' (line ++ '\n' :: rest) = line :: splitAt '\n' rest :=
    fun line rest hline => List.splitOn_append_cons_self_of_not_mem hline rest
  induction hlength : s.length using Nat.strongRecOn generalizing s with
  | ind n ih =>
      by_cases hmem : '\n' ∈ s
      · obtain ⟨line, rest, rfl, hline⟩ := List.eq_append_cons_of_mem hmem
        rw [markEscapes_append_newline] at h
        have hrest : splitAt '\n' (sanitize rest) = (splitAt '\n' rest).map sanitize := by
          refine ih rest.length ?_ (fun hacross => h hacross.behind) rfl
          rw [← hlength, List.length_append, List.length_cons]
          omega
        have hboth := (sanitize_append_newline_iff line rest).mpr fun hacross => h ⟨_, _, rfl, hacross⟩
        rw [hboth, hcons _ _ (newline_not_mem_sanitize hline), hcons _ _ hline, hrest, List.map_cons]
      · rw [hsingle s hmem, hsingle _ (newline_not_mem_sanitize hmem), List.map_singleton]

/-- Sanitizing works line by line exactly where no call has its name and its parenthesis on different
lines, shell escapes aside; then, and only then, there are as many lines as before. -/
theorem sanitize_lines_iff (a b s : Text) :
    (sanitize (a ++ '\n' :: b) = sanitize a ++ '\n' :: sanitize b ↔
      ¬ CallAcross (markEscapes a) (markEscapes b)) ∧
    (splitAt '\n' (sanitize s) = (splitAt '\n' s).map sanitize ↔
      ¬ HasCallAcross (markEscapes s)) ∧
    ((splitAt '\n' (sanitize s)).length = (splitAt '\n' s).length ↔
      ¬ HasCallAcross (markEscapes s)) := by
  refine ⟨sanitize_append_newline_iff a b, ?_⟩
  have hlost : (splitAt '\n' (sanitize s)).length = (splitAt '\n' s).length →
      ¬ HasCallAcross (markEscapes s) := by
    rintro hlength ⟨a, b, hs, hacross⟩
    have hlt := count_blockAll_lt hacross
    rw [← hs, ← sanitize_eq_blockAll, count_markEscapes] at hlt
    rw [length_splitAt, length_splitAt] at hlength
    omega
  refine ⟨⟨fun hlines => hlost ?_, splitAt_sanitize⟩, hlost, fun h => ?_⟩
  · rw [hlines, List.length_map]
  · rw [splitAt_sanitize h, List.length_map]

/-- A name at the end of a line and a parenthesis at the beginning of the next are made one line. -/
theorem call_over_line_feed :
    let a : Text := "x = eval"
    let b : Text := "(y)"
    sanitize (a ++ '\n' :: b) = "x = BLOCKED_eval(y)".toList ∧
    sanitize a ++ '\n' :: sanitize b = "x = eval\n(y)".toList ∧
    sanitize (a ++ '\n' :: b) ≠ sanitize a ++ '\n' :: sanitize b := by
  decide +kernel

end SignalLab.DenyList
