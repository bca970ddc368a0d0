import SignalLab.Proofs.Program.Frame
import SignalLab.Proofs.Program.ReadBack
import SignalLab.Proofs.Text.Words

/-!
# Clearing — removing variables by name

What a statement is gets decided by tests on its whole text, and the one for plots comes before the one
for clean-up commands: a statement that mentions a plot anywhere is one, also where it does so in a name
behind `clear`.  With no such name the statement removes exactly the variables it lists and leaves all
others in their order (`run_clear`).
-/

namespace SignalLab

open Text

/-! ## Stores -/

/-- The store without the given variables, the others in their order. -/
def Store.without (store : Store) (names : List Text) : Store :=
  ⟨store.entries.filter fun entry => entry.1 ∉ names⟩

theorem Store.foldl_delete (names : List Text) (store : Store) :
    names.foldl Store.delete store = store.without names := by
  induction names generalizing store with
  | nil => simp [without]
  | cons name names ih =>
      rw [List.foldl_cons, ih, without, without, delete, Keyed.remove, List.filter_filter]
      congr 1
      refine List.filter_congr fun entry _ => ?_
      rw [Bool.eq_iff_iff]
      simp [and_comm]

namespace Statement

/-! ## Clean-up statements -/

/-- The statement that removes variables: its command, and the names with what stands before each. -/
def clearText (targets : List (Text × Text)) : Text :=
  "clear".toList ++ targets.flatMap fun t => t.1 ++ t.2

/-- A name of a variable to be removed, with blanks before it. -/
structure IsListed (gap name : Text) : Prop where
  gap_ne_nil : gap ≠ []
  gap_blank : ∀ c ∈ gap, isBlank c = true
  target : IsTarget name
  not_all : name ≠ "all".toList

variable {targets : List (Text × Text)}

/-- Behind a name there are blanks, or nothing. -/
theorem isBlank_head?_targets (h : ∀ t ∈ targets, IsListed t.1 t.2) :
    ∀ c, (targets.flatMap fun t => t.1 ++ t.2).head? = some c → isBlank c = true := by
  intro c hc
  cases targets with
  | nil => cases hc
  | cons t targets =>
      have ht := h t List.mem_cons_self
      obtain ⟨b, gap, hgap⟩ := List.exists_cons_of_ne_nil ht.gap_ne_nil
      rw [List.flatMap_cons, hgap, List.cons_append, List.cons_append] at hc
      obtain rfl : b = c := Option.some.inj hc
      exact ht.gap_blank b (hgap ▸ List.mem_cons_self)

theorem words_targets (h : ∀ t ∈ targets, IsListed t.1 t.2) :
    words (targets.flatMap fun t => t.1 ++ t.2) = targets.map Prod.snd := by
  induction targets with
  | nil => rfl
  | cons t targets ih =>
      have ht := h t List.mem_cons_self
      have hrest := fun u hu => h u (List.mem_cons_of_mem t hu)
      rw [List.flatMap_cons, List.append_assoc, words_blanks_append ht.gap_blank,
        words_append ht.target.ne_nil ht.target.isBlank (isBlank_head?_targets hrest), ih hrest,
        List.map_cons]

theorem isWordChar_of_mem_command {c : Char} (hc : c ∈ "clear".toList) : isWordChar c = true :=
  List.all_eq_true.mp (by decide : "clear".toList.all isWordChar = true) c hc

theorem words_clearText (h : ∀ t ∈ targets, IsListed t.1 t.2) :
    words (clearText targets) = "clear".toList :: targets.map Prod.snd := by
  have hcommand : ∀ c ∈ "clear".toList, isBlank c = false :=
    fun c hc => isBlank_of_isWordChar (isWordChar_of_mem_command hc)
  rw [clearText, words_append (by decide) hcommand (isBlank_head?_targets h), words_targets h]

/-- The plots that a clean-up statement mentions are those in its names. -/
theorem includes_clearText (h : ∀ t ∈ targets, IsListed t.1 t.2) :
    includes "plot" (clearText targets) = targets.any fun t => includes "plot" t.2 := by
  have hplot : ∀ c, isBlank c = true → c ∉ "plot".toList := by
    intro c hc hmem
    have hall : "plot".toList.all isWordChar = true := by decide
    rw [isBlank_of_isWordChar (List.all_eq_true.mp hall c hmem)] at hc
    cases hc
  have htargets : ∀ ts : List (Text × Text), (∀ t ∈ ts, IsListed t.1 t.2) →
      includes "plot" (ts.flatMap fun t => t.1 ++ t.2) = ts.any fun t => includes "plot" t.2 := by
    intro ts hts
    induction ts with
    | nil => rfl
    | cons t ts ih =>
        have ht := hts t List.mem_cons_self
        have hrest := fun u hu => hts u (List.mem_cons_of_mem t hu)
        rw [List.flatMap_cons, List.append_assoc,
          includes_gap_append (by decide) (fun c hc => hplot c (ht.gap_blank c hc)),
          includes_append (by decide) (fun c hc => hplot c (isBlank_head?_targets hrest c hc)),
          ih hrest, List.any_cons]
  rw [clearText, includes_append (by decide) (fun c hc => hplot c (isBlank_head?_targets h c hc)),
    htargets targets h]
  rfl

/-- Nothing but letters, digits, underscores and blanks stands in a clean-up statement. -/
theorem not_mem_clearText (h : ∀ t ∈ targets, IsListed t.1 t.2) {c : Char}
    (hword : isWordChar c = false) (hblank : isBlank c = false) : c ∉ clearText targets := by
  intro hmem
  rcases List.mem_append.mp hmem with hmem | hmem
  · rw [isWordChar_of_mem_command hmem] at hword
    cases hword
  · obtain ⟨t, ht, hmem⟩ := List.mem_flatMap.mp hmem
    rcases List.mem_append.mp hmem with hmem | hmem
    · rw [(h t ht).gap_blank c hmem] at hblank
      cases hblank
    · rw [(h t ht).target.isWordChar c hmem] at hword
      cases hword

/-- Without an equals sign nothing is assigned. -/
theorem assignment?_eq_none {s : Text} (h : '=' ∉ s) : assignment? s = none := by
  cases htake : takeIdentifier? s with
  | none => simp only [assignment?, htake, Option.bind_eq_bind, Option.bind_none]
  | some found =>
      obtain ⟨name, rest⟩ := found
      have hrest : rest ⊆ s := by
        rw [takeIdentifier?.eq_def] at htake
        split at htake
        · cases htake
        · split at htake
          · cases htake
            exact fun c hc => List.mem_cons_of_mem _ ((List.dropWhile_suffix _).subset hc)
          · cases htake
      have hequals : afterBlanks? '=' rest = none := by
        refine Option.eq_none_iff_forall_ne_some.mpr fun behind hbehind => ?_
        obtain ⟨blanks, -, rfl⟩ := (afterBlanks?_eq_some_iff (by decide)).mp hbehind
        exact h (hrest (by simp))
      simp only [assignment?, htake, Option.bind_eq_bind, Option.bind_some, hequals,
        Option.bind_none]

theorem cleanup?_clear (hne : targets ≠ []) (h : ∀ t ∈ targets, IsListed t.1 t.2) :
    cleanup? "clear" (targets.map Prod.snd) = some (.clear (targets.map Prod.snd)) := by
  have hempty : (targets.map Prod.snd).isEmpty = false := by
    rw [List.isEmpty_eq_false_iff, ne_eq, List.map_eq_nil_iff]
    exact hne
  have hall : (targets.map Prod.snd).contains "all".toList = false := by
    rw [List.contains_eq_mem, decide_eq_false_iff_not]
    intro hmem
    obtain ⟨t, ht, hname⟩ := List.mem_map.mp hmem
    exact (h t ht).not_all hname
  have hoption : (targets.map Prod.snd).contains "-all".toList = false := by
    rw [List.contains_eq_mem, decide_eq_false_iff_not]
    intro hmem
    obtain ⟨t, ht, hname⟩ := List.mem_map.mp hmem
    have hminus := (h t ht).target.isWordChar '-' (by rw [hname]; decide)
    exact absurd hminus (by decide)
  rw [cleanup?, if_pos (.inl rfl), hempty, hall, hoption]
  rfl

/-- A clean-up statement with names removes them, unless one of the names mentions a plot. -/
theorem ofText_clearText (hne : targets ≠ []) (h : ∀ t ∈ targets, IsListed t.1 t.2) :
    ofText (clearText targets) =
      if targets.any fun t => includes "plot" t.2 then .plot else .clear (targets.map Prod.snd) := by
  have hcall : Print.isCall (clearText targets) = false := by rfl
  have hcomma := not_mem_clearText h (c := ',') (by decide) (by decide)
  have hassign := assignment?_eq_none (not_mem_clearText h (c := '=') (by decide) (by decide))
  rw [ofText, hassign]
  simp only [hcall, Bool.false_eq_true, if_false, includes_clearText h]
  split
  · rfl
  · rw [ofWords, words_clearText h, substitute_of_not_mem hcomma, words_clearText h]
    simp only [List.tail_cons, cleanup?_clear hne h, Option.getD_some]

/-- A clean-up statement removes exactly the variables it lists, and leaves the others in their order
and all else as it was; but one that mentions a plot in a name is a plot, and removes none. -/
theorem run_clear (s : Settings) (draw : Nat → Float) (st : State) (hne : targets ≠ [])
    (h : ∀ t ∈ targets, IsListed t.1 t.2) :
    ((∀ t ∈ targets, includes "plot" t.2 = false) →
      ∃ store, run s draw st (clearText targets) = ({ st with store }, none) ∧
        store.entries = st.store.entries.filter (fun entry => entry.1 ∉ targets.map Prod.snd) ∧
        ∀ id, store.get? id = if id ∈ targets.map Prod.snd then none else st.store.get? id) ∧
    ((∃ t ∈ targets, includes "plot" t.2 = true) →
      run s draw st (clearText targets) = plot.exec s draw st ∧
        (run s draw st (clearText targets)).1.store = st.store) := by
  rw [run, ofText_clearText hne h]
  constructor
  · intro hplain
    have hany : (targets.any fun t => includes "plot" t.2) = false := by
      rw [List.any_eq_false]
      intro t ht
      rw [hplain t ht]
      decide
    rw [hany, if_neg (by decide)]
    refine ⟨st.store.without (targets.map Prod.snd), ?_, rfl, fun id => ?_⟩
    · rw [exec, Store.foldl_delete]
    · rw [← Store.foldl_delete, Store.get?_deleteAll]
  · intro hplots
    rw [if_pos (List.any_eq_true.mpr hplots)]
    exact ⟨rfl, rfl⟩

/-- Two of three variables are removed, whatever blanks stand before their names. -/
theorem run_clear_of_three :
    let draw : Nat → Float := fun _ => 0.0
    let entries : Keyed Value := [("a", .scalar 1.0), ("b", .scalar 2.0), ("c", .scalar 3.0)]
    let st : State := { State.initial 0 with store := ⟨entries⟩ }
    let targets : List (Text × Text) := [("  ", "a"), ("\t", "c")]
    clearText targets = "clear  a\tc".toList ∧ targets ≠ [] ∧
    (∀ t ∈ targets, IsListed t.1 t.2 ∧ includes "plot" t.2 = false) ∧
    ∃ store, run Settings.standard draw st "clear  a\tc" = ({ st with store }, none) ∧
      store.names = ["b".toList] ∧ store.get? "c" = none := by
  intro draw entries st targets
  have hlisted : ∀ t ∈ targets, IsListed t.1 t.2 ∧ includes "plot" t.2 = false := by
    intro t ht
    rcases List.mem_pair.mp ht with rfl | rfl
    · exact ⟨⟨by decide, List.all_eq_true.mp (by decide), by rfl, by decide⟩, by decide⟩
    · exact ⟨⟨by decide, List.all_eq_true.mp (by decide), by rfl, by decide⟩, by decide⟩
  obtain ⟨store, hrun, hentries, hget⟩ :=
    (run_clear Settings.standard draw st (by simp [targets]) fun t ht => (hlisted t ht).1).1
      fun t ht => (hlisted t ht).2
  refine ⟨by decide, by simp [targets], hlisted, store, hrun, ?_, ?_⟩
  · rw [Store.names, hentries]
    decide
  · rw [hget]
    rfl

/-- A variable whose name mentions a plot is not removed. -/
theorem clear_of_plot_name :
    let st : State := { State.initial 0 with store := Store.empty.set "plots" (.scalar 1.0) }
    IsListed " " "plots" ∧ clearText [(" ", "plots")] = "clear plots".toList ∧
    (run Settings.standard (fun _ => 0.0) st "clear plots").1.store.get? "plots" =
      some (.scalar 1.0) :=
  ⟨⟨by decide, List.all_eq_true.mp (by decide), by rfl, by decide⟩, by decide, by rfl⟩

end Statement

end SignalLab
