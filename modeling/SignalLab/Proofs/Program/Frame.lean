import SignalLab.Proofs.Program.Budget
import SignalLab.Proofs.Program.Dependence

/-!
# Frames — what a statement leaves as it was

A written statement may look like several things at once: `plot = 3` mentions a plot and is an
assignment, `clear plot` begins with a clean-up command and is a plot.  `Statement.Effect` lists what a
statement can come to, each with what its text must look like for that, and `effect_run` says that
nothing else happens.

  * `Statement.Frame` — what follows for the parts of the state: the transcript grows at its end, the
    variables change by an assignment or a clean-up only, the dataset by a plot only, and a failed
    statement leaves the variables alone.
  * `Program.runFrom_frame` — the frame of a whole run, however it ends: variables that no assignment
    of it names stay or are removed, and no series but two are touched.
-/

namespace SignalLab

/-! ## Removed bindings -/

namespace Keyed

variable {α : Type}

theorem find?_remove (name other : Text) (entries : Keyed α) :
    find? other (remove name entries) = if other = name then none else find? other entries := by
  induction entries with
  | nil => simp [remove, find?]
  | cons entry rest ih =>
      obtain ⟨key, value⟩ := entry
      rw [remove] at ih ⊢
      by_cases hkey : key = name
      · rw [List.filter_cons_of_neg (by simpa using hkey), ih, find?, hkey]
        by_cases hother : other = name
        · rw [if_pos hother, if_pos hother]
        · rw [if_neg hother, if_neg hother, if_neg (Ne.symm hother)]
      · rw [List.filter_cons_of_pos (by simpa using hkey), find?, find?, ih]
        by_cases hother : other = name
        · rw [if_pos hother, if_pos hother, if_neg (hother ▸ hkey)]
        · rw [if_neg hother, if_neg hother]

end Keyed

theorem Store.get?_delete (store : Store) (name id : Text) :
    (store.delete name).get? id = if id = name then none else store.get? id :=
  Keyed.find?_remove name id store.entries

/-- Removing variables takes away their bindings and no others. -/
theorem Store.get?_deleteAll (names : List Text) (store : Store) (id : Text) :
    (names.foldl Store.delete store).get? id = if id ∈ names then none else store.get? id := by
  induction names generalizing store with
  | nil => rfl
  | cons name names ih =>
      rw [List.foldl_cons, ih, get?_delete]
      by_cases hmem : id ∈ names
      · rw [if_pos hmem, if_pos (List.mem_cons_of_mem _ hmem)]
      · rw [if_neg hmem]
        by_cases hname : id = name
        · rw [if_pos hname, if_pos (hname ▸ List.mem_cons_self)]
        · rw [if_neg hname, if_neg (by simp [hname, hmem])]

/-! ## Plotted series -/

/-- Whether a dataset has the same series as another one under all names but the two of a plot. -/
def Plot.Spares (dataset dataset' : Dataset) : Prop :=
  ∀ name, name ≠ Plot.timeName → name ≠ Plot.frequencyName →
    Keyed.find? name dataset' = Keyed.find? name dataset

namespace Plot

variable {s : Settings} {store : Store} {dataset dataset' : Dataset}

theorem timed_spares (store : Store) (dataset : Dataset) : Spares dataset (timed store dataset) := by
  intro name htime _
  rw [timed]
  split
  · exact Keyed.find?_assign_of_ne htime
  · rfl

theorem addFrequencies_spares (h : addFrequencies s store dataset = .ok dataset') :
    Spares dataset dataset' := by
  intro name _ hfrequency
  rw [addFrequencies] at h
  split at h
  · cases h
    rfl
  · cases h
    rfl
  · obtain ⟨series, -, rfl⟩ := Fallible.map_ok_iff.mp h
    exact Keyed.find?_assign_of_ne hfrequency

/-- A plot touches its two series only, also where it fails between them. -/
theorem update_spares (s : Settings) (store : Store) (dataset : Dataset) :
    Spares dataset (update s store dataset).1 := by
  rcases update_fst s store dataset with heq | hadd
  · rw [heq]
    exact timed_spares store dataset
  · intro name htime hfrequency
    rw [addFrequencies_spares hadd name htime hfrequency]
    exact timed_spares store dataset name htime hfrequency

end Plot

namespace Statement

/-! ## What a text has to look like -/

/-- Whether a text is a print call: it begins with the word for it and is no assignment. -/
def Prints (text : Text) : Prop :=
  assignment? text = none ∧ Print.isCall text = true

/-- Whether a text is a plot: it mentions one and is neither an assignment nor a print call. -/
def Plots (text : Text) : Prop :=
  assignment? text = none ∧ Print.isCall text = false ∧ Text.includes "plot" text = true

/-- Whether a text is neither an assignment nor a print call nor a plot. -/
def IsPlain (text : Text) : Prop :=
  assignment? text = none ∧ Print.isCall text = false ∧ Text.includes "plot" text = false

/-- Whether a text removes variables: its first word says so, and it is none of the others. -/
def Clears (text : Text) : Prop :=
  IsPlain text ∧ ∃ command, (Text.words text).head? = some command ∧
    (command = "clear".toList ∨ command = "clearvars".toList)

/-! ## What a statement can come to -/

/-- What a written statement can come to: the state it leaves, and how it fails if it does. -/
inductive Effect (s : Settings) (draw : Nat → Float) (text : Text) (st : State) :
    State × Option Failure → Prop
  | bound {name expr : Text} {drawn : Shape.Drawn}
      (assigns : assignment? text = some (name, expr))
      (value : evaluateExpression s draw st.draws st.store expr = .ok drawn) :
      Effect s draw text st
        ({ st with store := st.store.set name drawn.value, draws := st.draws + drawn.draws }, none)
  | unbound {name expr : Text} {failure : Failure}
      (assigns : assignment? text = some (name, expr))
      (value : evaluateExpression s draw st.draws st.store expr = .error failure) :
      Effect s draw text st (st, some failure)
  | printed (prints : Prints text) :
      Effect s draw text st (emitAll s st ((Print.lines? st.store text).getD []))
  | plotted (plots : Plots text) :
      Effect s draw text st
        ({ st with dataset := (Plot.update s st.store st.dataset).1 },
          (Plot.update s st.store st.dataset).2.map .arithmetic)
  | cleared {store : Store} (clears : Clears text)
      (removed : ∀ id, store.get? id = none ∨ store.get? id = st.store.get? id) :
      Effect s draw text st ({ st with store }, none)
  | shown {lines : List Text} (plain : IsPlain text) : Effect s draw text st (emitAll s st lines)
  | idle {failure : Option Failure} (plain : IsPlain text) : Effect s draw text st (st, failure)

variable {s : Settings} {draw : Nat → Float} {text : Text} {st : State}

theorem effect_cleanup {command : Text} {names : List Text} {t : Statement}
    (hplain : IsPlain text) (hcommand : (Text.words text).head? = some command)
    (h : cleanup? command names = some t) : Effect s draw text st (t.exec s draw st) := by
  rw [cleanup?] at h
  split at h
  · rename_i hclear
    have hclears : Clears text := ⟨hplain, command, hcommand, hclear⟩
    cases h
    split
    · exact .cleared hclears fun id => .inl rfl
    · refine .cleared hclears fun id => ?_
      rw [Store.get?_deleteAll]
      split
      · exact .inl rfl
      · exact .inr rfl
  · split at h
    · cases h
      exact .shown hplain
    · split at h
      · cases h
        exact .idle hplain
      · cases h

/-- Nothing else happens. -/
theorem effect_run (s : Settings) (draw : Nat → Float) (st : State) (text : Text) :
    Effect s draw text st (run s draw st text) := by
  rw [run, ofText]
  -- the tests in their order: an assignment, a print call, a plot, and then the first word
  split
  · rename_i name expr hassign
    rw [exec, assignTo]
    split
    · rename_i drawn hvalue
      exact .bound hassign hvalue
    · rename_i failure hvalue
      exact .unbound hassign hvalue
  · rename_i hassign
    split
    · rename_i hcall
      rw [exec_print]
      exact .printed ⟨hassign, hcall⟩
    · rename_i hcall
      split
      · rename_i hplot
        exact .plotted ⟨hassign, by simpa using hcall, hplot⟩
      · rename_i hplot
        have hplain : IsPlain text := ⟨hassign, by simpa using hcall, by simpa using hplot⟩
        rw [ofWords]
        split
        · exact .idle hplain
        · rename_i command rest hwords
          cases hclean : cleanup? command
              (Text.words (Text.substitute ',' [' '] text)).tail with
          | none => exact .shown hplain
          | some t => exact effect_cleanup hplain (by rw [hwords]; rfl) hclean

/-! ## Frames -/

/-- What a statement leaves as it was, and what it changes of the rest. -/
structure Frame (text : Text) (before : State) (result : State × Option Failure) : Prop where
  /-- The transcript grows at its end. -/
  transcript : before.transcript <+: result.1.transcript
  /-- The variables stay as they were, or the target of an assignment is bound and no other, or a
  clean-up takes bindings away and changes none. -/
  store : result.1.store = before.store ∨
    (∃ name expr value, assignment? text = some (name, expr) ∧
      result.1.store.get? name = some value ∧
      ∀ id, id ≠ name → result.1.store.get? id = before.store.get? id) ∨
    (Clears text ∧
      ∀ id, result.1.store.get? id = none ∨ result.1.store.get? id = before.store.get? id)
  /-- The dataset stays as it was, or a plot changes its two series. -/
  dataset : result.1.dataset = before.dataset ∨
    (Plots text ∧ Plot.Spares before.dataset result.1.dataset)
  /-- A failure leaves the variables as they were, and without a plot the dataset too. -/
  failed : result.2 ≠ none → result.1.store = before.store ∧
    (¬ Plots text → result.1.dataset = before.dataset)
  /-- A print call that fails has printed some of its lines from the first on, but not all. -/
  cut : result.2 ≠ none → Prints text → ∃ lines front, Print.lines? before.store text = some lines ∧
    front <+: lines ∧ front ≠ lines ∧ result.1.transcript = before.transcript ++ front

/-- Lines that are not all printed are printed up to one of them. -/
theorem transcript_emitAll_of_failure {lines : List Text} (h : (emitAll s st lines).2 ≠ none) :
    ∃ front, front <+: lines ∧ front ≠ lines ∧
      (emitAll s st lines).1.transcript = st.transcript ++ front := by
  rcases hresult : emitAll s st lines with ⟨st', failure | failure⟩
  · rw [hresult] at h
    exact absurd rfl h
  · obtain ⟨-, front, line, rest, rfl, hfront⟩ := emitAll_breach hresult
    refine ⟨front, List.prefix_append _ _, ?_, ?_⟩
    · intro heq
      have hlength := congrArg List.length heq
      rw [List.length_append, List.length_cons] at hlength
      omega
    · rw [emitAll_ok hfront]
      rfl

/-- A frame where neither the variables nor the dataset change. -/
theorem Frame.of_unchanged {result : State × Option Failure}
    (htranscript : st.transcript <+: result.1.transcript) (hstore : result.1.store = st.store)
    (hdataset : result.1.dataset = st.dataset)
    (hcut : result.2 ≠ none → Prints text → ∃ lines front,
      Print.lines? st.store text = some lines ∧ front <+: lines ∧ front ≠ lines ∧
        result.1.transcript = st.transcript ++ front) : Frame text st result where
  transcript := htranscript
  store := .inl hstore
  dataset := .inl hdataset
  failed := fun _ => ⟨hstore, fun _ => hdataset⟩
  cut := hcut

/-- Printing leaves the variables and the dataset as they were. -/
theorem Frame.of_emitAll {lines : List Text} (hcut : (emitAll s st lines).2 ≠ none →
    Prints text → Print.lines? st.store text = some lines) :
    Frame text st (emitAll s st lines) := by
  obtain ⟨printed, -, hprinted⟩ := emitAll_eq_withLines s st lines
  refine .of_unchanged (transcript_prefix_emitAll s st lines) ?_ ?_ ?_
  · rw [hprinted]
    rfl
  · rw [hprinted]
    rfl
  · intro hfailed hprints
    obtain ⟨front, hprefix, hne, htranscript⟩ := transcript_emitAll_of_failure hfailed
    exact ⟨lines, front, hcut hfailed hprints, hprefix, hne, htranscript⟩

theorem not_prints_of_isPlain (h : IsPlain text) : ¬ Prints text := by
  rintro ⟨-, hcall⟩
  cases h.2.1.symm.trans hcall

/-- Whatever a statement comes to keeps to its frame. -/
theorem Effect.frame {result : State × Option Failure} (h : Effect s draw text st result) :
    Frame text st result := by
  cases h with
  | @bound name expr drawn assigns value =>
      exact
        { transcript := List.prefix_rfl
          store := .inr (.inl ⟨name, expr, drawn.value, assigns, Store.get?_set_self _ _ _,
            fun id hid => Store.get?_set_of_ne hid _ _⟩)
          dataset := .inl rfl
          failed := fun hfailed => absurd rfl hfailed
          cut := fun hfailed => absurd rfl hfailed }
  | @unbound name expr failure assigns value =>
      -- what has a target is no print call
      refine .of_unchanged List.prefix_rfl rfl rfl ?_
      rintro - ⟨hnone, -⟩
      cases assigns.symm.trans hnone
  | printed prints =>
      refine .of_emitAll ?_
      intro hfailed _
      cases hlines : Print.lines? st.store text with
      | none =>
          -- a call that has nothing to print cannot be cut off
          rw [hlines] at hfailed
          exact absurd rfl hfailed
      | some lines => rfl
  | plotted plots =>
      refine
        { transcript := List.prefix_rfl
          store := .inl rfl
          dataset := .inr ⟨plots, Plot.update_spares s st.store st.dataset⟩
          failed := fun _ => ⟨rfl, fun hnot => absurd plots hnot⟩
          cut := ?_ }
      rintro - ⟨-, hcall⟩
      cases plots.2.1.symm.trans hcall
  | cleared clears removed =>
      exact
        { transcript := List.prefix_rfl
          store := .inr (.inr ⟨clears, removed⟩)
          dataset := .inl rfl
          failed := fun hfailed => absurd rfl hfailed
          cut := fun hfailed => absurd rfl hfailed }
  | shown plain =>
      exact .of_emitAll fun _ hprints => absurd hprints (not_prints_of_isPlain plain)
  | idle plain =>
      exact .of_unchanged List.prefix_rfl rfl rfl fun _ hprints =>
        absurd hprints (not_prints_of_isPlain plain)

/-- Every statement keeps to its frame, under every policy and all limits. -/
theorem run_frame (s : Settings) (draw : Nat → Float) (st : State) (text : Text) :
    Frame text st (run s draw st text) :=
  (effect_run s draw st text).frame

end Statement

/-! ## Runs -/

/-- What statements together leave as it was: a variable that none of them assigns to stays or is
removed, and only the two series of a plot are touched. -/
structure State.Spares (texts : List Text) (before after : State) : Prop where
  transcript : before.transcript <+: after.transcript
  store : ∀ id, after.store.get? id = before.store.get? id ∨ after.store.get? id = none ∨
    ∃ text ∈ texts, ∃ expr, Statement.assignment? text = some (id, expr)
  dataset : Plot.Spares before.dataset after.dataset

namespace State.Spares

variable {texts texts' : List Text} {st st₁ st₂ : State}

theorem refl (texts : List Text) (st : State) : Spares texts st st :=
  ⟨List.prefix_rfl, fun _ => .inl rfl, fun _ _ _ => rfl⟩

theorem trans (h : Spares texts st st₁) (h' : Spares texts' st₁ st₂) :
    Spares (texts ++ texts') st st₂ := by
  refine ⟨h.transcript.trans h'.transcript, ?_, ?_⟩
  · intro id
    rcases h'.store id with hkept | hremoved | ⟨text, hmem, htarget⟩
    · rw [hkept]
      rcases h.store id with hkept | hremoved | ⟨text, hmem, htarget⟩
      · exact .inl hkept
      · exact .inr (.inl hremoved)
      · exact .inr (.inr ⟨text, List.mem_append_left _ hmem, htarget⟩)
    · exact .inr (.inl hremoved)
    · exact .inr (.inr ⟨text, List.mem_append_right _ hmem, htarget⟩)
  · intro name htime hfrequency
    rw [h'.dataset name htime hfrequency, h.dataset name htime hfrequency]

end State.Spares

theorem Statement.Frame.spares {text : Text} {st : State} {result : State × Option Failure}
    (h : Statement.Frame text st result) : State.Spares [text] st result.1 := by
  refine ⟨h.transcript, ?_, ?_⟩
  · intro id
    rcases h.store with hsame | ⟨name, expr, value, hassign, -, hothers⟩ | ⟨-, hremoved⟩
    · rw [hsame]
      exact .inl rfl
    · by_cases hid : id = name
      · exact .inr (.inr ⟨text, List.mem_cons_self, expr, hid ▸ hassign⟩)
      · exact .inl (hothers id hid)
    · rcases hremoved id with hnone | hkept
      · exact .inr (.inl hnone)
      · exact .inl hkept
  · rcases h.dataset with hsame | ⟨-, hspares⟩
    · rw [hsame]
      exact fun _ _ _ => rfl
    · exact hspares

namespace Program

variable {s : Settings} {clock draw : Nat → Float}

/-- The frame of a run, whether it comes to its end or stops before. -/
theorem runFrom_frame (steps : Nat) (st : State) (stmts : List (Nat × Text)) :
    State.Spares (stmts.map Prod.snd) st (runFrom s clock draw steps st stmts).state := by
  induction stmts generalizing steps st with
  | nil => exact .refl _ st
  | cons stmt rest ih =>
      obtain ⟨line, text⟩ := stmt
      have hstep := (Statement.effect_run s draw st text).frame.spares
      -- at a limit nothing is executed any more; a failed statement is the last one
      rw [runFrom]
      split
      · exact .refl _ st
      · split
        · exact .refl _ st
        · split
          · rename_i st' heq
            rw [heq] at hstep
            exact hstep.trans (ih _ st')
          · rename_i st' failure heq
            rw [heq] at hstep
            exact hstep.trans (.refl _ st')

end Program

end SignalLab
