import SignalLab.Main
import SignalLab.Proofs.Backend.Replay
import SignalLab.Proofs.Lab.Series

/-!
# Plots on the command line — where the switch against them takes effect

A switch counts wherever it stands, before a double dash and in the way of no other switch's value.
A dispatch and a run have no series behind `--no-plot`.  A lab program is executed without a look at
it, so that its series are printed all the same.

  * `CommandLine.noPlot_iff` — when arguments have the switch set.
  * `CommandLine.plot_dropped_iff` — what is printed behind the switch, and with which status.
-/

namespace SignalLab.CommandLine

/-! ## The switch -/

/-- The switch is set by no value of another one. -/
theorem noPlot_of_setValue? {sw : Switch} {value : Text} {a a' : Arguments}
    (h : sw.setValue? value a = some a') : a'.noPlot = a.noPlot := by
  cases sw with
  | help | noPlot => cases h
  | logLevel =>
      cases h
      rfl
  | mode | timeout | memoryLimit | seed =>
      obtain ⟨v, -, rfl⟩ := Option.map_eq_some_iff.mp h
      rfl

/-- Items that make a request set the switch just if it is one of them. -/
theorem noPlot_iff_of_requestFrom {path : Option Text} {extra : Bool} {a a' : Arguments}
    {items : List Item} {path' : Text}
    (h : requestFrom path extra a items = some (.run path' a')) :
    a'.noPlot = true ↔ a.noPlot = true ∨ .long .noPlot none ∈ items := by
  -- the arguments found so far change along the items, so both sides are followed at once
  fun_induction requestFrom path extra a items with
  | case2 =>
      cases h
      simp
  | case8 path extra a rest ih => simp [ih h]
  | case9 path extra a sw value rest ih =>
      obtain ⟨b, hb, hrest⟩ := Option.bind_eq_some_iff.mp h
      simp [ih b hrest, noPlot_of_setValue? hb]
  | case10 path extra a sw value rest hhelp hnoPlot ih =>
      obtain ⟨b, hb, hrest⟩ := Option.bind_eq_some_iff.mp h
      simp [ih b hrest, noPlot_of_setValue? hb, Ne.symm hnoPlot]
  -- help, and items that make no request
  | case1 | case3 | case5 | case6 | case7 | case11 => cases h
  -- words, separators and unknown switches
  | _ =>
      rename_i ih
      simp [ih h]

theorem switchItem_ne_separator (sw : Switch) (name : Text) (value : Option Text) :
    switchItem sw name value ≠ .separator := by
  rw [switchItem]
  split <;> exact fun h => by cases h

theorem unnamed_ne_separator (s : Text) : unnamed s ≠ .separator := by
  rw [unnamed]
  split <;> exact fun h => by cases h

/-- A double dash is the one separator. -/
theorem ofText?_eq_separator_iff (s : Text) :
    Item.ofText? s = some .separator ↔ s = "--".toList := by
  rw [Item.ofText?]
  by_cases hs : s = "--".toList
  · rw [if_pos hs]
    exact iff_of_true rfl hs
  · rw [if_neg hs]
    refine iff_of_false (fun h => ?_) hs
    split at h
    · cases h
    · dsimp only at h
      split at h
      · exact switchItem_ne_separator _ _ _ (Option.some.inj h)
      · split at h
        · split at h
          · exact unnamed_ne_separator s (Option.some.inj h)
          · cases h
          · cases h
        · split at h
          · cases h
          · exact unnamed_ne_separator s (Option.some.inj h)

theorem items?_cons_of_separator (rest : List Text) :
    items? ("--".toList :: rest) = some (.separator :: rest.map .word) := by
  rw [items?, (ofText?_eq_separator_iff _).mpr rfl]
  rfl

/-- An argument that is no separator is an item of its own. -/
theorem exists_of_items?_cons {s : Text} {rest : List Text} {items : List Item}
    (hs : s ≠ "--".toList) (h : items? (s :: rest) = some items) :
    ∃ item items', Item.ofText? s = some item ∧ items? rest = some items' ∧
      items = item :: items' := by
  obtain ⟨item, hitem, h⟩ := Option.bind_eq_some_iff.mp h
  have hne : item ≠ .separator := by
    rintro rfl
    exact hs ((ofText?_eq_separator_iff s).mp hitem)
  cases item with
  | separator => exact absurd rfl hne
  | _ =>
      obtain ⟨items', hitems', h⟩ := Option.bind_eq_some_iff.mp h
      cases h
      exact ⟨_, items', hitem, hitems', rfl⟩

/-- The long switches among the items are those before the first separator. -/
theorem long_mem_iff {arguments : List Text} {items : List Item} (h : items? arguments = some items)
    (sw : Switch) (attached : Option Text) : .long sw attached ∈ items ↔
      ∃ s ∈ arguments.takeWhile (fun s => s ≠ "--".toList),
        Item.ofText? s = some (.long sw attached) := by
  induction arguments generalizing items with
  | nil =>
      cases h
      simp
  | cons s rest ih =>
      by_cases hs : s = "--".toList
      · rw [hs, items?_cons_of_separator] at h
        cases h
        simp [hs]
      · obtain ⟨item, items', hitem, hitems', rfl⟩ := exists_of_items?_cons hs h
        rw [List.takeWhile_cons_of_pos (by simpa using hs)]
        simp [ih hitems', hitem, eq_comm]

/-- Arguments have the switch set just if it is among them, in any spelling. -/
theorem noPlot_iff {arguments : List Text} {path : Text} {a : Arguments}
    (h : request? arguments = some (.run path a)) : a.noPlot = true ↔
      ∃ s ∈ arguments.takeWhile (fun s => s ≠ "--".toList),
        Item.ofText? s = some (.long .noPlot none) := by
  obtain ⟨items, hitems, hrequest⟩ := Option.bind_eq_some_iff.mp h
  rw [noPlot_iff_of_requestFrom hrequest, long_mem_iff hitems]
  exact or_iff_right (fun hunset => by cases hunset)

/-! ## What is printed -/

variable {a : Arguments}

/-- Behind the switch only labs have series. -/
theorem hasSeries_execute_iff (hplot : a.noPlot = true) (host : Host) (backends : Backends)
    (clock draw : Nat → Float) (code : Text) :
    (execute host backends clock draw a code).HasSeries ↔
      a.mode = .lab ∧ Lab.ShowsSeries clock draw code := by
  rw [execute]
  cases hmode : a.mode with
  | dispatch =>
      have hoff : (Options.resolve host a.options).plotOutput = false := by
        simp [Options.resolve, Arguments.options, hplot]
      refine iff_of_false (Outcome.not_hasSeries_of_dataset ?_) (fun h => by cases h.1)
      exact backends.dataset_dispatch clock code hoff
  | interpreter =>
      refine iff_of_false (Outcome.not_hasSeries_of_dataset ?_) (fun h => by cases h.1)
      dsimp only
      rw [hplot]
      rfl
  | lab =>
      dsimp only
      rw [Lab.hasSeries_execute]
      exact (and_iff_right rfl).symm

theorem exitStatus_eq_zero_iff (o : Outcome) : exitStatus o = 0 ↔ o.success = true := by
  rw [exitStatus]
  cases o.success <;> decide

/-- What is printed behind the switch has no series, unless they are those of a lab, and the status
is zero just if a success is printed. -/
theorem plot_dropped_iff {arguments : List Text} {path : Text}
    (hrequest : request? arguments = some (.run path a))
    (hswitch : "--no-plot".toList ∈ arguments.takeWhile fun s => s ≠ "--".toList) (host : Host)
    (backends : Backends) (clock draw : Nat → Float) (code : Text) :
    ∃ entries, printed (execute host backends clock draw a code) =
        (Payload.object entries).indented ∧
      (exitStatus (execute host backends clock draw a code) = 0 ↔
        Keyed.find? "success" entries = some (.bool true)) ∧
      (Keyed.find? "data" entries = none ↔
        ¬(a.mode = .lab ∧ Lab.ShowsSeries clock draw code)) := by
  have hplot : a.noPlot = true := (noPlot_iff hrequest).mpr ⟨_, hswitch, by decide⟩
  generalize ho : execute host backends clock draw a code = o
  have hseries : o.HasSeries ↔ a.mode = .lab ∧ Lab.ShowsSeries clock draw code :=
    ho ▸ hasSeries_execute_iff hplot host backends clock draw code
  refine ⟨o.entries, rfl, ?_, ?_⟩
  · have hfound : Keyed.find? "success" o.entries = some (.bool o.success) := rfl
    rw [exitStatus_eq_zero_iff, hfound, Option.some.injEq, Payload.bool.injEq]
  · rw [Outcome.find?_entries_data_eq_none_iff, hseries]

/-- A run behind the switch prints no series. -/
theorem plot_dropped_of_interpreter :
    let arguments : List Text := ["-", "--mode", "interpreter", "--no-plot"]
    let a : Arguments := { mode := .interpreter, noPlot := true }
    let o := execute [] (backendsOf [] fun _ => 0.0) (fun _ => 0.0) (fun _ => 0.0) a
      "t = 0:1:2\nx = 0:1:2\nplot(t, x)"
    request? arguments = some (.run "-" a) ∧
      "--no-plot".toList ∈ (arguments.takeWhile fun s => s ≠ "--".toList) ∧
      ∃ entries, printed o = (Payload.object entries).indented ∧
        Keyed.find? "data" entries = none := by
  intro arguments a o
  have hrequest : request? arguments = some (.run "-" a) := by decide
  have hswitch : "--no-plot".toList ∈ arguments.takeWhile fun s => s ≠ "--".toList := by decide
  obtain ⟨entries, hprinted, -, hdata⟩ := plot_dropped_iff hrequest hswitch []
    (backendsOf [] fun _ => 0.0) (fun _ => 0.0) (fun _ => 0.0)
    "t = 0:1:2\nx = 0:1:2\nplot(t, x)"
  exact ⟨hrequest, hswitch, entries, hprinted, hdata.mpr fun h => by cases h.1⟩

/-- A lab program behind the switch prints what it plotted. -/
theorem plot_of_lab_printed :
    let arguments : List Text := ["-", "--mode", "lab", "--no-plot"]
    let a : Arguments := { mode := .lab, noPlot := true }
    let o := execute [] (backendsOf [] fun _ => 0.0) (fun _ => 0.0) (fun _ => 0.0) a
      "t = 0:1:2\nx = 0:1:2\nplot(t, x)"
    request? arguments = some (.run "-" a) ∧
      ∃ entries data, printed o = (Payload.object entries).indented ∧
        Keyed.find? "data" entries = some data := by
  intro arguments a o
  have hdata : (Keyed.find? "data" o.entries).isSome = true := by decide +kernel
  obtain ⟨data, hdata⟩ := Option.isSome_iff_exists.mp hdata
  exact ⟨by decide, o.entries, data, rfl, hdata⟩

end SignalLab.CommandLine
