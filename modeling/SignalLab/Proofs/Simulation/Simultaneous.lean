import SignalLab.Proofs.Simulation.Neutralization

/-!
# Simultaneous blocking — the order of the denied names does not matter

Sanitizing blocks the calls of one denied name after the other, each time in the text that the last
time left.  `blockAll` does it in one pass: where a call of some name begins in the text as it was,
the call is blocked, and every other character is kept.  The two agree, whatever the order of the
names (`foldl_block_eq_blockAll`):

  * at one place at most one denied name is called, since the name is the whole word there;
  * within a call, or within what replaces it, no other call begins;
  * behind the parenthesis of a call the text goes on as if nothing had been replaced.

So blocking one name first and the others in one pass is blocking them all in one pass
(`blockAllFrom_block`).
-/

namespace SignalLab.DenyList

open Text

/-! ## One pass -/

/-- The name that is called at the front, and what follows the parenthesis of the call. -/
def anyCallAt? (ns : List String) (before : Option Char) (s : Text) : Option (String × Text) :=
  ns.findSome? fun name => (callAt? name before s).map fun rest => (name, rest)

theorem exists_of_anyCallAt? {ns : List String} {before : Option Char} {s rest : Text}
    {name : String} (h : anyCallAt? ns before s = some (name, rest)) :
    name ∈ ns ∧ callAt? name before s = some rest := by
  obtain ⟨name', hmem, hcall⟩ := List.exists_of_findSome?_eq_some h
  obtain ⟨rest', hcall, heq⟩ := Option.map_eq_some_iff.mp hcall
  cases heq
  exact ⟨hmem, hcall⟩

/-- Neutralizes the calls of all the names in a text that follows the given character. -/
def blockAllFrom (ns : List String) (before : Option Char) (s : Text) : Text :=
  match s with
  | [] => []
  | c :: s =>
    match _h : anyCallAt? ns before (c :: s) with
    | some (name, rest) => blockedCall name ++ blockAllFrom ns (some '(') rest
    | none => c :: blockAllFrom ns (some c) s
termination_by s.length
decreasing_by
  · exact length_of_callAt? (exists_of_anyCallAt? _h).2
  · simp

/-- Neutralizes the calls of all the names in one pass from left to right. -/
def blockAll (ns : List String) (s : Text) : Text :=
  blockAllFrom ns none s

theorem blockAllFrom_of_call {ns : List String} {before : Option Char} {s rest : Text}
    {name : String} (h : anyCallAt? ns before s = some (name, rest)) :
    blockAllFrom ns before s = blockedCall name ++ blockAllFrom ns (some '(') rest := by
  cases s with
  | nil =>
      have hlength := length_of_callAt? (exists_of_anyCallAt? h).2
      exact absurd hlength (Nat.not_lt_zero _)
  | cons c s =>
      rw [blockAllFrom]
      split
      · rename_i name' rest' heq
        cases h.symm.trans heq
        rfl
      · rename_i heq
        cases h.symm.trans heq

theorem blockAllFrom_of_none {ns : List String} {before : Option Char} {c : Char} {s : Text}
    (h : anyCallAt? ns before (c :: s) = none) :
    blockAllFrom ns before (c :: s) = c :: blockAllFrom ns (some c) s := by
  rw [blockAllFrom]
  split
  · rename_i name' rest' heq
    cases h.symm.trans heq
  · rfl

theorem anyCallAt?_singleton (name : String) (before : Option Char) (s : Text) :
    anyCallAt? [name] before s = (callAt? name before s).map fun rest => (name, rest) := by
  rw [anyCallAt?, List.findSome?_singleton]

/-- One name in one pass. -/
theorem blockFrom_eq_blockAllFrom (name : String) (before : Option Char) (s : Text) :
    blockFrom name before s = blockAllFrom [name] before s := by
  fun_induction blockFrom name before s with
  | case1 before => rw [blockAllFrom]
  | case2 before c s rest hcall ih =>
      rw [blockAllFrom_of_call (by rw [anyCallAt?_singleton, hcall]; rfl), ih]
  | case3 before c s hnone ih =>
      rw [blockAllFrom_of_none (by rw [anyCallAt?_singleton, hnone]; rfl), ih]

theorem blockFrom_of_call {name : String} {before : Option Char} {s rest : Text}
    (h : callAt? name before s = some rest) :
    blockFrom name before s = blockedCall name ++ blockFrom name (some '(') rest := by
  rw [blockFrom_eq_blockAllFrom, blockFrom_eq_blockAllFrom,
    blockAllFrom_of_call (by rw [anyCallAt?_singleton, h]; rfl)]

/-! ## Calls at one place -/

/-- A denied name that is called is the whole word at its place. -/
theorem takeWhile_of_callAt? {name : String} (hname : name ∈ names) {before : Option Char}
    {s rest : Text} (h : callAt? name before s = some rest) :
    s.takeWhile isWordChar = name.toList := by
  obtain ⟨-, blanks, hblanks, rfl⟩ := callAt?_eq_some_iff.mp h
  have hword : ∀ c ∈ name.toList, isWordChar c = true :=
    fun c hc => ((names_plain name hname).2 c hc).1
  have hend : (blanks ++ '(' :: rest).takeWhile isWordChar = [] := by
    cases blanks with
    | nil => exact List.takeWhile_cons_of_neg (by decide)
    | cons b blanks =>
        have hb := isWordChar_of_isBlank (hblanks b List.mem_cons_self)
        exact List.takeWhile_cons_of_neg (by rw [hb]; decide)
  rw [List.takeWhile_append_of_pos hword, hend, List.append_nil]

/-- At one place at most one denied name is called. -/
theorem eq_of_callAt? {name other : String} (hname : name ∈ names) (hother : other ∈ names)
    {before : Option Char} {s rest rest' : Text} (h : callAt? name before s = some rest)
    (h' : callAt? other before s = some rest') : name = other :=
  String.toList_inj.mp ((takeWhile_of_callAt? hname h).symm.trans (takeWhile_of_callAt? hother h'))

theorem anyCallAt?_eq_some_iff {ns : List String} (hns : ns ⊆ names) {before : Option Char}
    {s rest : Text} {name : String} :
    anyCallAt? ns before s = some (name, rest) ↔
      name ∈ ns ∧ callAt? name before s = some rest := by
  refine ⟨exists_of_anyCallAt?, fun ⟨hmem, hcall⟩ => ?_⟩
  have hsome : (anyCallAt? ns before s).isSome = true := by
    rw [anyCallAt?, List.isSome_findSome?, List.any_eq_true]
    exact ⟨name, hmem, by rw [hcall]; rfl⟩
  obtain ⟨⟨name', rest'⟩, hany⟩ := Option.isSome_iff_exists.mp hsome
  obtain ⟨hmem', hcall'⟩ := exists_of_anyCallAt? hany
  obtain rfl := eq_of_callAt? (hns hmem) (hns hmem') hcall hcall'
  obtain rfl : rest = rest' := Option.some.inj (hcall.symm.trans hcall')
  exact hany

theorem anyCallAt?_eq_none_iff {ns : List String} {before : Option Char} {s : Text} :
    anyCallAt? ns before s = none ↔ ∀ name ∈ ns, callAt? name before s = none := by
  simp [anyCallAt?]

/-- The pass does not depend on the order of the names. -/
theorem blockAllFrom_congr {ns ns' : List String} (hns : ns ⊆ names)
    (h : ∀ name, name ∈ ns ↔ name ∈ ns') (before : Option Char) (s : Text) :
    blockAllFrom ns before s = blockAllFrom ns' before s := by
  have hns' : ns' ⊆ names := fun name hname => hns ((h name).mpr hname)
  fun_induction blockAllFrom ns before s with
  | case1 before => rw [blockAllFrom]
  | case2 before c s name rest hcall ih =>
      obtain ⟨hmem, hcall⟩ := (anyCallAt?_eq_some_iff hns).mp hcall
      have hcall' := (anyCallAt?_eq_some_iff hns').mpr ⟨(h name).mp hmem, hcall⟩
      rw [blockAllFrom_of_call hcall', ih]
  | case3 before c s hnone ih =>
      have hnone' : anyCallAt? ns' before (c :: s) = none :=
        anyCallAt?_eq_none_iff.mpr fun name hname =>
          anyCallAt?_eq_none_iff.mp hnone name ((h name).mpr hname)
      rw [blockAllFrom_of_none hnone', ih]

/-! ## Texts that are copied -/

/-- A stretch in which no call begins is copied. -/
theorem blockAllFrom_append {ns : List String} {before : Option Char} {front s : Text}
    (h : ∀ u v, front = u ++ v → v ≠ [] →
      anyCallAt? ns (u.getLast?.or before) (v ++ s) = none) :
    blockAllFrom ns before (front ++ s) =
      front ++ blockAllFrom ns (front.getLast?.or before) s := by
  induction front generalizing before with
  | nil => rfl
  | cons c front ih =>
      have hfirst : anyCallAt? ns before (c :: (front ++ s)) = none :=
        h [] (c :: front) rfl (List.cons_ne_nil _ _)
      have hrest : blockAllFrom ns (some c) (front ++ s) =
          front ++ blockAllFrom ns (front.getLast?.or (some c)) s := by
        refine ih fun u v huv hv => ?_
        rw [← getLast?_cons_or]
        exact h (c :: u) v (by rw [huv, List.cons_append]) hv
      rw [List.cons_append, blockAllFrom_of_none hfirst, hrest, ← getLast?_cons_or]
      rfl

/-- What replaces a call is copied. -/
theorem blockAllFrom_blockedCall {ns : List String} (hns : ns ⊆ names) {name : String}
    (hname : name ∈ names) (before : Option Char) (s : Text) :
    blockAllFrom ns before (blockedCall name ++ s) =
      blockedCall name ++ blockAllFrom ns (some '(') s := by
  have hlast : (blockedCall name).getLast?.or before = some '(' := by
    rw [blockedCall, List.getLast?_concat, Option.some_or]
  rw [blockAllFrom_append, hlast]
  intro u v huv hv
  refine anyCallAt?_eq_none_iff.mpr fun other hother => Option.eq_none_iff_forall_ne_some.mpr ?_
  intro rest hcall
  obtain ⟨hmay, blanks, -, heq⟩ := callAt?_eq_some_iff.mp hcall
  have hplace : blockedCall name ++ s = u ++ (other.toList ++ (blanks ++ '(' :: rest)) := by
    rw [huv, List.append_assoc, heq]
  obtain ⟨front, hfront, -⟩ := exists_front_behind_blockedCall hname (hns hother) hplace hmay
  -- a call could only begin behind the parenthesis
  have hlength := congrArg List.length huv
  rw [hfront, List.length_append, List.length_append] at hlength
  exact hv (List.eq_nil_of_length_eq_zero (by omega))

/-- Within a call no other call begins. -/
theorem callAt?_within_call {name other : String} (hname : name ∈ names) (hother : other ∈ names)
    {before : Option Char} {blanks u v : Text} (hblanks : ∀ b ∈ blanks, isBlank b = true)
    (huv : name.toList ++ (blanks ++ ['(']) = u ++ v) (hu : u ≠ []) (hv : v ≠ []) (s : Text) :
    callAt? other (u.getLast?.or before) (v ++ s) = none := by
  refine Option.eq_none_iff_forall_ne_some.mpr fun rest hcall => ?_
  obtain ⟨hmay, gap, -, heq⟩ := callAt?_eq_some_iff.mp hcall
  obtain ⟨c, v, rfl⟩ := List.exists_cons_of_ne_nil hv
  obtain ⟨d, ds, hds⟩ := List.exists_cons_of_ne_nil (names_plain other hother).1
  rw [hds] at heq
  obtain ⟨rfl, -⟩ := List.cons.inj heq
  have hc : isWordChar c = true := ((names_plain other hother).2 c (hds ▸ List.mem_cons_self)).1
  rcases List.append_eq_append_iff.mp huv with ⟨w, rfl, hw⟩ | ⟨w, hw, hrest⟩
  · -- behind the name there are blanks and the parenthesis, which begin no name
    have hmem : c ∈ blanks ++ ['('] := by
      rw [hw]
      exact List.mem_append_right _ List.mem_cons_self
    rcases List.mem_append.mp hmem with hmem | hmem
    · rw [isWordChar_of_isBlank (hblanks c hmem)] at hc
      cases hc
    · rw [List.mem_singleton.mp hmem] at hc
      exact absurd hc (by decide)
  · -- within the name a character of the word stands before the place
    obtain ⟨u, e, rfl⟩ := (List.eq_nil_or_concat' u).resolve_left hu
    have he : isWordChar e = true :=
      ((names_plain name hname).2 e (by rw [hw]; simp)).1
    rw [List.getLast?_concat, Option.some_or, mayBegin_of_isWordChar he] at hmay
    cases hmay

/-- A call of another name is copied. -/
theorem blockFrom_call {name other : String} (hname : name ∈ names) (hother : other ∈ names)
    (hne : other ≠ name) {before : Option Char} {s rest : Text}
    (h : callAt? other before s = some rest) :
    callAt? other before (blockFrom name before s) = some (blockFrom name (some '(') rest) := by
  obtain ⟨hmay, blanks, hblanks, hs⟩ := callAt?_eq_some_iff.mp h
  have hcut : s = (other.toList ++ (blanks ++ ['('])) ++ rest := by simp [hs]
  have hlast : (other.toList ++ (blanks ++ ['('])).getLast?.or before = some '(' := by
    rw [← List.append_assoc, List.getLast?_concat, Option.some_or]
  have hcopy : blockFrom name before s =
      (other.toList ++ (blanks ++ ['('])) ++ blockFrom name (some '(') rest := by
    rw [blockFrom_eq_blockAllFrom, blockFrom_eq_blockAllFrom, ← hlast, hcut]
    refine blockAllFrom_append fun u v huv hv => ?_
    refine anyCallAt?_eq_none_iff.mpr fun n hn => ?_
    rw [List.mem_singleton.mp hn]
    by_cases hu : u = []
    · -- at the very front another name is called
      subst hu
      rw [List.nil_append] at huv
      rw [List.getLast?_nil, Option.none_or, ← huv, ← hcut]
      refine Option.eq_none_iff_forall_ne_some.mpr fun rest' hcall => hne ?_
      exact eq_of_callAt? hother hname h hcall
    · exact callAt?_within_call hother hname hblanks huv hu hv rest
  refine callAt?_eq_some_iff.mpr ⟨hmay, blanks, hblanks, ?_⟩
  rw [hcopy]
  simp

/-- A call at the front of a text with blocked calls is one of the text itself. -/
theorem callAt?_of_blockFrom {name other : String} (hother : other ∈ names)
    {before : Option Char} {s rest : Text}
    (h : callAt? other before (blockFrom name before s) = some rest) :
    ∃ rest', callAt? other before s = some rest' := by
  obtain ⟨hmay, blanks, hblanks, heq⟩ := callAt?_eq_some_iff.mp h
  have hcopy : blockFrom name before s = (other.toList ++ (blanks ++ ['('])) ++ rest := by
    simp [heq]
  obtain ⟨t, ht⟩ := exists_eq_append_of_blockFrom (not_mem_of_call hother hblanks) hcopy
  exact ⟨t, callAt?_eq_some_iff.mpr ⟨hmay, blanks, hblanks, by simp [ht]⟩⟩

/-! ## One name after the other -/

/-- Blocking a name and then others in one pass is blocking them all in one pass. -/
theorem blockAllFrom_block {name : String} {ns : List String} (hns : name :: ns ⊆ names)
    (before : Option Char) (s : Text) :
    blockAllFrom ns before (blockFrom name before s) = blockAllFrom (name :: ns) before s := by
  have hname : name ∈ names := hns List.mem_cons_self
  have hrest : ns ⊆ names := fun n hn => hns (List.mem_cons_of_mem _ hn)
  fun_induction blockAllFrom (name :: ns) before s with
  | case1 before => rw [blockFrom, blockAllFrom]
  | case2 before c s other rest hcall ih =>
      obtain ⟨hmem, hcalled⟩ := exists_of_anyCallAt? hcall
      have hother : other ∈ names := hns hmem
      by_cases heq : other = name
      · -- the name itself is blocked first, and then copied
        subst heq
        rw [blockFrom_of_call hcalled, blockAllFrom_blockedCall hrest hname, ih]
      · -- the call of another name is copied first, and then blocked
        have hmem' : other ∈ ns := (List.mem_cons.mp hmem).resolve_left heq
        have hcopied := blockFrom_call hname hother heq hcalled
        rw [blockAllFrom_of_call ((anyCallAt?_eq_some_iff hrest).mpr ⟨hmem', hcopied⟩), ih]
  | case3 before c s hnone ih =>
      have hnocall := anyCallAt?_eq_none_iff.mp hnone
      have hblock : blockFrom name before (c :: s) = c :: blockFrom name (some c) s := by
        rw [blockFrom, hnocall name List.mem_cons_self]
      have hnone' : anyCallAt? ns before (c :: blockFrom name (some c) s) = none := by
        refine anyCallAt?_eq_none_iff.mpr fun other hother => ?_
        refine Option.eq_none_iff_forall_ne_some.mpr fun rest hcall => ?_
        rw [← hblock] at hcall
        obtain ⟨rest', hcall'⟩ := callAt?_of_blockFrom (hrest hother) hcall
        rw [hnocall other (List.mem_cons_of_mem _ hother)] at hcall'
        cases hcall'
      rw [hblock, blockAllFrom_of_none hnone', ih]

/-- Blocking names one after the other is blocking them in one pass. -/
theorem foldl_block_eq_blockAll {ns : List String} (hns : ns ⊆ names) (s : Text) :
    ns.foldl (fun s name => block name s) s = blockAll ns s := by
  induction ns generalizing s with
  | nil =>
      have hcopy : blockAllFrom [] none (s ++ []) =
          s ++ blockAllFrom [] (s.getLast?.or none) [] :=
        blockAllFrom_append fun _ _ _ _ => rfl
      rw [List.append_nil, blockAllFrom, List.append_nil] at hcopy
      exact hcopy.symm
  | cons name ns ih =>
      rw [List.foldl_cons, ih (fun n hn => hns (List.mem_cons_of_mem _ hn))]
      exact blockAllFrom_block hns none s

/-- In a text without shell escapes, blocking the denied names one after the other, in any order, is
one pass from left to right that blocks each call of the text and keeps all else; and that is what
sanitizing does. -/
theorem blocked_in_any_order {s : Text}
    (hescapes : ∀ line ∈ splitAt '\n' s, (line.dropWhile isIndent).head? ≠ some '!') :
    (∀ ns : List String, ns.Perm names →
      ns.foldl (fun s name => block name s) s = blockAll names s) ∧
    sanitize s = blockAll names s := by
  have horder : ∀ ns : List String, ns.Perm names →
      ns.foldl (fun s name => block name s) s = blockAll names s := by
    intro ns hns
    rw [foldl_block_eq_blockAll hns.subset]
    exact blockAllFrom_congr hns.subset (fun name => hns.mem_iff) none s
  refine ⟨horder, ?_⟩
  rw [sanitize, markEscapes_eq_self fun line hline =>
    isShellEscape_eq_false_iff.mpr (hescapes line hline)]
  exact horder names (List.Perm.refl names)

/-- Calls in calls, names within names and a call over two lines, blocked from the last name to the
first. -/
theorem blocked_in_any_order_of_nested :
    let text : Text := "x = feval (eval\n\t(a.system(2)), !cd  (b))"
    (∀ line ∈ splitAt '\n' text, (line.dropWhile isIndent).head? ≠ some '!') ∧
    names.reverse.foldl (fun s name => block name s) text = blockAll names text ∧
    sanitize text = blockAll names text ∧
    blockAll names text = "x = BLOCKED_feval(BLOCKED_eval(a.system(2)), !BLOCKED_cd(b))".toList := by
  intro text
  have hescapes : ∀ line ∈ splitAt '\n' text, (line.dropWhile isIndent).head? ≠ some '!' := by
    decide +kernel
  obtain ⟨horder, hsanitize⟩ := blocked_in_any_order hescapes
  exact ⟨hescapes, horder names.reverse names.reverse_perm, hsanitize, by decide +kernel⟩

end SignalLab.DenyList
