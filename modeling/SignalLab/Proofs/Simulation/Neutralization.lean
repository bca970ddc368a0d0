import Mathlib.Data.List.Basic
import SignalLab.Proofs.Text.Calls
import SignalLab.Proofs.Text.LineStarts
import SignalLab.Simulation.DenyList

/-!
# Neutralization — what sanitizing leaves and what it takes away

`Calls name before s` says by concatenation that `name` is called somewhere in `s`.  Putting the
blocking word in front of the calls of one name leaves no call of that name and makes none of
another (`Calls.of_blockFrom`): the new text begins with a capital letter, which no denied name has,
and a name behind it is part of a longer word.
-/

namespace SignalLab.DenyList

open Text

/-! ## Calls by concatenation -/

/-- A call of `name` somewhere in a text that follows the given character. -/
def Calls (name : String) (before : Option Char) (s : Text) : Prop :=
  ∃ front blanks rest, s = front ++ (name.toList ++ (blanks ++ '(' :: rest)) ∧
    (∀ b ∈ blanks, isBlank b = true) ∧ mayBegin (front.getLast?.or before) = true

/-- A call is a name at a boundary, and a parenthesis behind blanks. -/
theorem callAt?_eq_some_iff {name : String} {before : Option Char} {s rest : Text} :
    callAt? name before s = some rest ↔ mayBegin before = true ∧
      ∃ blanks, (∀ b ∈ blanks, isBlank b = true) ∧ s = name.toList ++ (blanks ++ '(' :: rest) := by
  rw [callAt?]
  split
  · rename_i hmay
    rw [afterCall?_eq_some_iff, and_iff_right hmay]
  · rename_i hmay
    refine iff_of_false (fun h => ?_) (fun h => hmay h.1)
    cases h

/-- The search for a call finds one exactly if there is one. -/
theorem isCalled_iff {name : String} {s : Text} : isCalled name s = true ↔ Calls name none s := by
  rw [isCalled, isSome_search_iff, Calls]
  constructor
  · rintro ⟨front, rest, rfl, h⟩
    obtain ⟨behind, hbehind⟩ := Option.isSome_iff_exists.mp h
    obtain ⟨hmay, blanks, hblanks, rfl⟩ := callAt?_eq_some_iff.mp hbehind
    exact ⟨front, blanks, behind, rfl, hblanks, hmay⟩
  · rintro ⟨front, blanks, rest, rfl, hblanks, hmay⟩
    refine ⟨front, _, rfl, Option.isSome_iff_exists.mpr ⟨rest, ?_⟩⟩
    exact callAt?_eq_some_iff.mpr ⟨hmay, blanks, hblanks, rfl⟩

/-- The blocked calls are those of listed names. -/
theorem mem_blockedCalls_iff {name : String} {s : Text} :
    name ∈ blockedCalls s ↔ name ∈ names ∧ Calls name none s := by
  rw [blockedCalls, List.mem_filter, isCalled_iff]

theorem blockedCalls_eq_nil_iff {s : Text} :
    blockedCalls s = [] ↔ ∀ name ∈ names, ¬ Calls name none s := by
  simp only [List.eq_nil_iff_forall_not_mem, mem_blockedCalls_iff, not_and]

namespace Calls

variable {name other : String} {before : Option Char} {s : Text}

/-- A call stays one when text is put in front. -/
theorem behind (front : Text) (h : Calls name (front.getLast?.or before) s) :
    Calls name before (front ++ s) := by
  obtain ⟨front', blanks, rest, rfl, hblanks, hmay⟩ := h
  refine ⟨front ++ front', blanks, rest, (List.append_assoc _ _ _).symm, hblanks, ?_⟩
  rwa [List.getLast?_append, Option.or_assoc]

/-- What is called in the rest of a text is called in the text. -/
theorem cons {c : Char} (h : Calls name (some c) s) : Calls name before (c :: s) :=
  behind [c] h

/-- A call stays one when text is put behind. -/
theorem before_append (h : Calls name before s) (rest : Text) : Calls name before (s ++ rest) := by
  obtain ⟨front, blanks, rest', rfl, hblanks, hmay⟩ := h
  exact ⟨front, blanks, rest' ++ rest, by simp, hblanks, hmay⟩

/-- A call at the beginning of a text may follow any character that calls may follow. -/
theorem of_mayBegin (h : Calls name none s) (hmay : mayBegin before = true) :
    Calls name before s := by
  obtain ⟨front, blanks, rest, rfl, hblanks, hfront⟩ := h
  refine ⟨front, blanks, rest, rfl, hblanks, ?_⟩
  cases hlast : front.getLast? with
  | none => exact hmay
  | some c =>
      rw [hlast] at hfront
      exact hfront

end Calls

/-- A name may begin behind a blank. -/
theorem mayBegin_of_isBlank {c : Char} (h : isBlank c = true) : mayBegin (some c) = true := by
  have hdot : c ≠ '.' := by
    rintro rfl
    cases h
  rw [mayBegin, Option.any_some, isWordChar_of_isBlank h]
  simpa using hdot

/-! ## Blocking -/

/-- A denied name is a word, and has no capital letter of the blocking word. -/
theorem names_plain :
    ∀ name ∈ names, name.toList ≠ [] ∧ ∀ c ∈ name.toList, isWordChar c = true ∧ c ≠ 'B' := by
  have hall : ∀ name ∈ names, name.toList ≠ [] ∧
      name.toList.all (fun c => isWordChar c && c != 'B') = true := by
    decide +kernel
  intro name hname
  obtain ⟨hne, hchars⟩ := hall name hname
  refine ⟨hne, fun c hc => ?_⟩
  simpa using List.all_eq_true.mp hchars c hc

/-- The mark of a blocked call is a word. -/
theorem blockedLead_word : ∀ c ∈ blockedLead, isWordChar c = true :=
  List.all_eq_true.mp (by decide +kernel)

/-- A name does not begin inside a word. -/
theorem mayBegin_of_isWordChar {c : Char} (h : isWordChar c = true) :
    mayBegin (some c) = false := by
  rw [mayBegin, Option.any_some, h]
  rfl

/-- Up to its first capital letter of the blocking word, a text with blocked calls is the text
itself. -/
theorem exists_eq_append_of_blockFrom {name : String} {before : Option Char} {s u v : Text}
    (hu : 'B' ∉ u) (h : blockFrom name before s = u ++ v) : ∃ t, s = u ++ t := by
  induction u generalizing before s with
  | nil => exact ⟨s, rfl⟩
  | cons d u ih =>
      cases s with
      | nil =>
          rw [blockFrom] at h
          cases h
      | cons c s =>
          rw [blockFrom] at h
          split at h
          · -- a call here would put the blocking word at the front
            have hd : 'B' = d := (List.cons.inj h).1
            exact absurd (hd ▸ List.mem_cons_self) hu
          · obtain ⟨hd, hrest⟩ := List.cons.inj h
            obtain ⟨t, rfl⟩ := ih (fun hmem => hu (List.mem_cons_of_mem _ hmem)) hrest
            exact ⟨t, hd ▸ rfl⟩

/-- No call of a denied name begins within a neutralized beginning. -/
theorem exists_front_behind_blockedCall {name other : String} (hname : name ∈ names)
    (hother : other ∈ names) {before : Option Char} {front behind rest : Text}
    (h : blockedCall name ++ behind = front ++ (other.toList ++ rest))
    (hmay : mayBegin (front.getLast?.or before) = true) :
    ∃ front', front = blockedCall name ++ front' ∧ behind = front' ++ (other.toList ++ rest) := by
  rcases List.append_eq_append_iff.mp h with hlong | ⟨tail, hcall, hrest⟩
  · exact hlong
  rcases List.eq_nil_or_concat' tail with rfl | ⟨tail, d, rfl⟩
  · exact ⟨[], by rw [hcall, List.append_nil, List.append_nil], hrest.symm⟩
  exfalso
  have hword : ∀ c ∈ blockedLead ++ name.toList, isWordChar c = true := by
    intro c hc
    rcases List.mem_append.mp hc with hc | hc
    · exact blockedLead_word c hc
    · exact ((names_plain name hname).2 c hc).1
  -- all but the parenthesis is one word, and the front is part of it
  have hfront : blockedLead ++ name.toList = front ++ tail := by
    rw [blockedCall, ← List.append_assoc front] at hcall
    exact (List.append_inj' hcall rfl).1
  rcases List.eq_nil_or_concat' front with rfl | ⟨front, c, rfl⟩
  · obtain ⟨e, es, hes⟩ := List.exists_cons_of_ne_nil (names_plain other hother).1
    have hhead : 'B' = e := by
      rw [List.nil_append] at hcall
      rw [hes, ← hcall] at hrest
      exact (List.cons.inj hrest).1.symm
    exact ((names_plain other hother).2 e (hes ▸ List.mem_cons_self)).2 hhead.symm
  · have hc : isWordChar c = true := hword c (by rw [hfront]; simp)
    rw [List.getLast?_concat, Option.some_or, mayBegin_of_isWordChar hc] at hmay
    cases hmay

/-- A call of a denied name has no capital letter of the blocking word up to its parenthesis. -/
theorem not_mem_of_call {name : String} (hname : name ∈ names) {blanks : Text}
    (hblanks : ∀ b ∈ blanks, isBlank b = true) : 'B' ∉ name.toList ++ (blanks ++ ['(']) := by
  intro hmem
  rcases List.mem_append.mp hmem with hmem | hmem
  · exact ((names_plain name hname).2 _ hmem).2 rfl
  · rcases List.mem_append.mp hmem with hmem | hmem
    · exact absurd (hblanks _ hmem) (by decide)
    · exact absurd hmem (by decide)

/-- A call at the front of a text with blocked calls is copied, so it is one of the text itself, and
not of the blocked name. -/
theorem call_of_blockFrom {name other : String} (hother : other ∈ names) {before : Option Char}
    {s blanks rest : Text} (hmay : mayBegin before = true)
    (hblanks : ∀ b ∈ blanks, isBlank b = true) (hnone : callAt? name before s = none)
    (h : blockFrom name before s = other.toList ++ (blanks ++ '(' :: rest)) :
    other ≠ name ∧ Calls other before s := by
  have hcopy : blockFrom name before s = (other.toList ++ (blanks ++ ['('])) ++ rest := by
    rw [h]
    simp
  obtain ⟨t, ht⟩ := exists_eq_append_of_blockFrom (not_mem_of_call hother hblanks) hcopy
  have hs : s = other.toList ++ (blanks ++ '(' :: t) := by simp [ht]
  refine ⟨?_, [], blanks, t, hs, hblanks, hmay⟩
  rintro rfl
  have hcall : callAt? other before s = some t :=
    callAt?_eq_some_iff.mpr ⟨hmay, blanks, hblanks, hs⟩
  rw [hnone] at hcall
  cases hcall

/-- Blocking the calls of a name leaves none of them and makes no other. -/
theorem Calls.of_blockFrom {name other : String} (hname : name ∈ names) (hother : other ∈ names)
    {before : Option Char} {s : Text} (h : Calls other before (blockFrom name before s)) :
    other ≠ name ∧ Calls other before s := by
  fun_induction blockFrom name before s with
  | case1 before =>
      obtain ⟨front, blanks, rest, heq, -⟩ := h
      simp at heq
  | case2 before c s rest hcall ih =>
      -- the call is behind the neutralized beginning, and the text goes on behind the parenthesis
      obtain ⟨front, blanks, tail, heq, hblanks, hmay⟩ := h
      obtain ⟨front, rfl, hbehind⟩ := exists_front_behind_blockedCall hname hother heq hmay
      have hlast : (blockedCall name).getLast? = some '(' := by
        rw [blockedCall, List.getLast?_append]
        rfl
      rw [List.getLast?_append, Option.or_assoc, hlast, Option.some_or] at hmay
      obtain ⟨hne, hrest⟩ := ih ⟨front, blanks, tail, hbehind, hblanks, hmay⟩
      obtain ⟨-, gap, -, hs⟩ := callAt?_eq_some_iff.mp hcall
      refine ⟨hne, ?_⟩
      have hs' : c :: s = (name.toList ++ gap ++ ['(']) ++ rest := by simp [hs]
      rw [hs']
      refine Calls.behind _ ?_
      rwa [List.getLast?_concat, Option.some_or]
  | case3 before c s hnone ih =>
      obtain ⟨front, blanks, tail, heq, hblanks, hmay⟩ := h
      rcases List.cons_eq_append_iff.mp heq with ⟨rfl, hfront⟩ | ⟨front, rfl, hbehind⟩
      · refine call_of_blockFrom hother hmay hblanks hnone (Eq.trans ?_ hfront.symm)
        rw [blockFrom, hnone]
      · rw [getLast?_cons_or] at hmay
        obtain ⟨hne, hrest⟩ := ih ⟨front, blanks, tail, hbehind, hblanks, hmay⟩
        exact ⟨hne, hrest.cons⟩

/-- A text without calls of a name stays as it is. -/
theorem blockFrom_eq_self {name : String} {before : Option Char} {s : Text}
    (h : ¬ Calls name before s) : blockFrom name before s = s := by
  fun_induction blockFrom name before s with
  | case1 before => rfl
  | case2 before c s rest hcall ih =>
      obtain ⟨hmay, blanks, hblanks, hs⟩ := callAt?_eq_some_iff.mp hcall
      exact absurd ⟨[], blanks, rest, hs, hblanks, hmay⟩ h
  | case3 before c s hnone ih =>
      rw [ih (fun hcalls => h hcalls.cons)]

/-! ## Shell escapes -/

/-- Whether a character may stand before the exclamation mark of a shell escape. -/
def isIndent (c : Char) : Bool :=
  c = ' ' ∨ c = '\t'

/-- Behind the indentation comes what is not indentation. -/
theorem drop_indentation (line : Text) :
    line.drop (indentation line).length = line.dropWhile isIndent := by
  have hcut : indentation line ++ line.dropWhile isIndent = line := List.takeWhile_append_dropWhile
  calc line.drop (indentation line).length
      = (indentation line ++ line.dropWhile isIndent).drop (indentation line).length := by rw [hcut]
    _ = line.dropWhile isIndent := List.drop_left

/-- A shell escape is a line that starts with the mark. -/
theorem isShellEscape_eq (line : Text) : isShellEscape line = startsWith isIndent '!' line := by
  rw [isShellEscape, drop_indentation, startsWith]

/-- Gaps that reach over indentations, but only over blanks. -/
structure IsGap (gap : Char → Bool) : Prop where
  indent : ∀ c, isIndent c = true → gap c = true
  blank : ∀ c, gap c = true → isBlank c = true

theorem isGap_isIndent : IsGap isIndent where
  indent := fun _ h => h
  blank := by
    intro c h
    rcases of_decide_eq_true h with rfl | rfl <;> decide

theorem isGap_isBlank : IsGap isBlank where
  indent := isGap_isIndent.blank
  blank := fun _ h => h

/-- Gaps are blank. -/
theorem IsGap.eq_false {gap : Char → Bool} (hgap : IsGap gap) {c : Char} (hc : isBlank c = false) :
    gap c = false := by
  cases h : gap c with
  | false => rfl
  | true =>
      rw [hgap.blank c h] at hc
      cases hc

variable {gap : Char → Bool}

/-- A marked line starts with the mark only if it was no shell escape. -/
theorem startsWith_markEscape (hgap : IsGap gap) (line : Text) :
    startsWith gap '!' (markEscape line) = (startsWith gap '!' line && !isShellEscape line) := by
  rw [markEscape]
  split
  · rename_i hescape
    have hindent : ∀ c ∈ indentation line, gap c = true := by
      intro c hc
      exact hgap.indent c (List.all_eq_true.mp (List.all_takeWhile (l := line)) c hc)
    have hmarker : escapeMarker.dropWhile gap = escapeMarker :=
      List.dropWhile_cons_of_neg (by rw [hgap.eq_false (by decide)]; decide)
    rw [startsWith, List.dropWhile_append_of_pos hindent, hmarker, hescape, Bool.not_true,
      Bool.and_false]
    decide
  · rename_i hescape
    rw [Bool.eq_false_iff.mpr hescape, Bool.not_false, Bool.and_true]

/-- A marked line is one line. -/
theorem newline_not_mem_markEscape {line : Text} (h : '\n' ∉ line) : '\n' ∉ markEscape line := by
  rw [markEscape]
  split
  · intro hmem
    rcases List.mem_append.mp hmem with hmem | hmem
    · exact h ((List.takeWhile_prefix _).subset hmem)
    · exact absurd hmem (by decide)
  · exact h

/-- Marking the escapes keeps the lines apart. -/
theorem splitAt_markEscapes (s : Text) :
    splitAt '\n' (markEscapes s) = (splitAt '\n' s).map markEscape := by
  rw [markEscapes, join, splitAt, List.splitOn_intercalate]
  · intro line hline
    obtain ⟨source, hsource, rfl⟩ := List.mem_map.mp hline
    exact newline_not_mem_markEscape (not_mem_of_mem_splitAt hsource)
  · intro hnil
    exact splitAt_ne_nil _ s (List.map_eq_nil_iff.mp hnil)

/-- Without shell escapes no line is marked. -/
theorem markEscapes_eq_self {s : Text} (h : ∀ line ∈ splitAt '\n' s, isShellEscape line = false) :
    markEscapes s = s := by
  have hmap : (splitAt '\n' s).map markEscape = splitAt '\n' s := by
    refine (List.map_congr_left fun line hline => ?_).trans (List.map_id _)
    rw [markEscape, h line hline]
    rfl
  rw [markEscapes, hmap]
  exact List.intercalate_splitOn '\n'

/-- Blocking calls keeps the first characters of all lines. -/
theorem hasStart_blockFrom (hgap : IsGap gap) {name : String} (hname : name ∈ names)
    {before : Option Char} {inGap : Bool} {s : Text} :
    hasStart gap '!' inGap (blockFrom name before s) = hasStart gap '!' inGap s := by
  have hparenthesis : gap '(' = false := hgap.eq_false (by decide)
  have hname' : '!' ∉ name.toList := by
    intro hmem
    exact absurd ((names_plain name hname).2 _ hmem).1 (by decide)
  fun_induction blockFrom name before s generalizing inGap with
  | case1 before => rfl
  | case2 before c s rest hcall ih =>
      obtain ⟨-, blanks, hblanks, hs⟩ := callAt?_eq_some_iff.mp hcall
      have hlead : '!' ∉ blockedLead ++ name.toList := by
        intro hmem
        rcases List.mem_append.mp hmem with hmem | hmem
        · exact absurd hmem (by decide)
        · exact hname' hmem
      have hcalled : '!' ∉ name.toList ++ blanks := by
        intro hmem
        rcases List.mem_append.mp hmem with hmem | hmem
        · exact hname' hmem
        · exact absurd (hblanks _ hmem) (by decide)
      -- a call and what stands for it reach the parenthesis without the mark
      have hnew : blockedCall name ++ blockFrom name (some '(') rest =
          (blockedLead ++ name.toList) ++ '(' :: blockFrom name (some '(') rest := by
        rw [blockedCall, List.append_assoc, List.singleton_append]
      have hold : c :: s = (name.toList ++ blanks) ++ '(' :: rest := by
        rw [hs, List.append_assoc]
      rw [hnew, hold, hasStart_append_cons hlead (by decide) (by decide) hparenthesis,
        hasStart_append_cons hcalled (by decide) (by decide) hparenthesis]
      exact ih
  | case3 before c s hnone ih =>
      rw [hasStart, hasStart, ih, ih, ih]

/-! ## Sanitizing -/

/-- What is still called when names are blocked is none of them. -/
theorem Calls.of_blocked {ns : List String} (hns : ns ⊆ names) {other : String}
    (hother : other ∈ names) {s : Text}
    (h : Calls other none (ns.foldl (fun s name => block name s) s)) :
    other ∉ ns ∧ Calls other none s := by
  induction ns generalizing s with
  | nil => exact ⟨List.not_mem_nil, h⟩
  | cons name ns ih =>
      obtain ⟨hmem, hrest⟩ := ih (fun n hn => hns (List.mem_cons_of_mem _ hn)) h
      obtain ⟨hne, hs⟩ := Calls.of_blockFrom (hns List.mem_cons_self) hother hrest
      refine ⟨?_, hs⟩
      intro hcons
      rcases List.mem_cons.mp hcons with heq | hcons
      · exact hne heq
      · exact hmem hcons

/-- No denied name is called in a sanitized text. -/
theorem not_calls_sanitize {name : String} (hname : name ∈ names) (s : Text) :
    ¬ Calls name none (sanitize s) :=
  fun h => (Calls.of_blocked (List.Subset.refl names) hname h).1 hname

/-- Blocking makes no line start with the mark. -/
theorem hasStart_blocked (hgap : IsGap gap) {ns : List String} (hns : ns ⊆ names) (s : Text) :
    hasStart gap '!' true (ns.foldl (fun s name => block name s) s) = hasStart gap '!' true s := by
  induction ns generalizing s with
  | nil => rfl
  | cons name ns ih =>
      rw [List.foldl_cons, ih (fun n hn => hns (List.mem_cons_of_mem _ hn))]
      exact hasStart_blockFrom hgap (hns List.mem_cons_self)

/-- The lines of a sanitized text that have an exclamation mark first are those of the text that
are no shell escapes. -/
theorem any_startsWith_sanitize (hgap : IsGap gap) (s : Text) :
    (splitAt '\n' (sanitize s)).any (startsWith gap '!') =
      (splitAt '\n' s).any fun line => startsWith gap '!' line && !isShellEscape line := by
  rw [← hasStart_true, sanitize, hasStart_blocked hgap (List.Subset.refl names), hasStart_true,
    splitAt_markEscapes, List.any_map]
  congr 1
  funext line
  exact startsWith_markEscape hgap line

/-- A text with neither a call of a denied name nor a line that is a shell escape. -/
structure IsClean (s : Text) : Prop where
  calls : blockedCalls s = []
  escapes : ∀ line ∈ splitAt '\n' s, (line.dropWhile isIndent).head? ≠ some '!'

/-- A line is no shell escape if another character stands first. -/
theorem isShellEscape_eq_false_iff {line : Text} :
    isShellEscape line = false ↔ (line.dropWhile isIndent).head? ≠ some '!' := by
  rw [isShellEscape_eq, startsWith, decide_eq_false_iff_not]

/-- What is sanitized is clean. -/
theorem isClean_sanitize (s : Text) : IsClean (sanitize s) where
  calls := blockedCalls_eq_nil_iff.mpr fun _ hname => not_calls_sanitize hname s
  escapes := by
    have hnone : (splitAt '\n' (sanitize s)).any (startsWith isIndent '!') = false := by
      rw [any_startsWith_sanitize isGap_isIndent, List.any_eq_false]
      rintro line -
      rw [isShellEscape_eq, Bool.and_not_self]
      decide
    intro line hline
    rw [← isShellEscape_eq_false_iff, isShellEscape_eq]
    exact Bool.eq_false_iff.mpr (List.any_eq_false.mp hnone line hline)

/-- A clean text is left as it is. -/
theorem sanitize_of_isClean {s : Text} (h : IsClean s) : sanitize s = s := by
  have hcalls := blockedCalls_eq_nil_iff.mp h.calls
  have hfold : ∀ ns : List String, ns ⊆ names → ns.foldl (fun s name => block name s) s = s := by
    intro ns hns
    induction ns with
    | nil => rfl
    | cons name ns ih =>
        rw [List.foldl_cons, block, blockFrom_eq_self (hcalls name (hns List.mem_cons_self))]
        exact ih (fun n hn => hns (List.mem_cons_of_mem _ hn))
  rw [sanitize, markEscapes_eq_self fun line hline =>
    isShellEscape_eq_false_iff.mpr (h.escapes line hline)]
  exact hfold names (List.Subset.refl names)

/-- Sanitizing leaves a text as it is exactly if the text is clean, and what it gives is clean: it
has no call of a denied name, and sanitizing it again changes nothing. -/
theorem sanitize_eq_self_iff (s : Text) :
    (sanitize s = s ↔ IsClean s) ∧ IsClean (sanitize s) ∧ sanitize (sanitize s) = sanitize s ∧
      ∀ name ∈ names, ¬ Calls name none (sanitize s) := by
  refine ⟨⟨fun h => ?_, sanitize_of_isClean⟩, isClean_sanitize s,
    sanitize_of_isClean (isClean_sanitize s), fun name hname => not_calls_sanitize hname s⟩
  rw [← h]
  exact isClean_sanitize s

end SignalLab.DenyList
