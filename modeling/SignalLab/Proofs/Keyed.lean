import SignalLab.Text.Keyed

/-!
# Keyed values — where the entries of an update come from

The entries after an assignment are old ones and at most one new one; removing leaves old ones only.
What holds of all entries is therefore kept by both, and so is that no name has two entries.  The
value that was assigned to a name is the one that is found under it, and nothing else is found
elsewhere than before.
-/

namespace SignalLab.Keyed

variable {α β : Type} {name : Text} {value : α} {entries : Keyed α}

/-- What is found under a name is an entry. -/
theorem mem_of_find? (h : find? name entries = some value) : (name, value) ∈ entries := by
  induction entries with
  | nil => cases h
  | cons entry rest ih =>
      obtain ⟨key, old⟩ := entry
      rw [find?] at h
      split at h
      · rename_i hkey
        cases h
        rw [hkey]
        exact List.mem_cons_self
      · exact List.mem_cons_of_mem _ (ih h)

/-- An entry in front hides those behind it. -/
theorem find?_append (name : Text) (xs ys : Keyed α) :
    find? name (xs ++ ys) = (find? name xs).or (find? name ys) := by
  induction xs with
  | nil => rfl
  | cons entry rest ih =>
      obtain ⟨key, old⟩ := entry
      rw [List.cons_append, find?, find?]
      by_cases hkey : key = name
      · rw [if_pos hkey, if_pos hkey]
        rfl
      · rw [if_neg hkey, if_neg hkey, ih]

/-- The entries behind an assignment are the new one and some of the old ones. -/
theorem mem_assign {entry : Text × α} (h : entry ∈ assign name value entries) :
    entry = (name, value) ∨ entry ∈ entries := by
  induction entries with
  | nil =>
      rw [assign, List.mem_singleton] at h
      exact .inl h
  | cons head rest ih =>
      obtain ⟨key, old⟩ := head
      rw [assign] at h
      split at h
      · rename_i hkey
        rcases List.mem_cons.mp h with h | h
        · exact .inl (hkey ▸ h)
        · exact .inr (List.mem_cons_of_mem _ h)
      · rcases List.mem_cons.mp h with h | h
        · exact .inr (h ▸ List.mem_cons_self)
        · rcases ih h with h | h
          · exact .inl h
          · exact .inr (List.mem_cons_of_mem _ h)

/-- A removal adds no entry. -/
theorem mem_of_mem_remove {entry : Text × α} (h : entry ∈ remove name entries) :
    entry ∈ entries :=
  (List.mem_filter.mp h).1

/-- What is assigned is found. -/
theorem find?_assign_self : find? name (assign name value entries) = some value := by
  induction entries with
  | nil => exact if_pos rfl
  | cons entry rest ih =>
      obtain ⟨key, old⟩ := entry
      rw [assign]
      by_cases hkey : key = name
      · rw [if_pos hkey, find?, if_pos hkey]
      · rw [if_neg hkey, find?, if_neg hkey, ih]

/-- Assigning the value that is there already changes nothing, and nothing else does so. -/
theorem assign_eq_self_iff :
    assign name value entries = entries ↔ find? name entries = some value := by
  constructor
  · intro h
    rw [← h]
    exact find?_assign_self
  · intro h
    induction entries with
    | nil => cases h
    | cons entry rest ih =>
        obtain ⟨key, old⟩ := entry
        rw [find?] at h
        rw [assign]
        by_cases hkey : key = name
        · rw [if_pos hkey] at h ⊢
          cases h
          rfl
        · rw [if_neg hkey] at h ⊢
          rw [ih h]

theorem assign_ne_nil (name : Text) (value : α) (entries : Keyed α) :
    assign name value entries ≠ [] := by
  intro hnil
  have hfound : find? name (assign name value entries) = some value := find?_assign_self
  rw [hnil] at hfound
  cases hfound

/-- Nothing is found under a name that is not listed. -/
theorem find?_eq_none (h : name ∉ names entries) : find? name entries = none := by
  induction entries with
  | nil => rfl
  | cons entry rest ih =>
      obtain ⟨key, old⟩ := entry
      rw [names, List.map_cons, List.mem_cons, not_or] at h
      rw [find?, if_neg (Ne.symm h.1)]
      exact ih h.2

/-- With one entry for each name, what is found in a collection is what `f` keeps of the entry.  With
several, the collection might keep a later one in place of the first. -/
theorem find?_collect (f : α → Option β) (hnodup : (names entries).Nodup) (name : Text) :
    find? name (collect f entries) = (find? name entries).bind f := by
  induction entries with
  | nil => rfl
  | cons entry rest ih =>
      obtain ⟨key, old⟩ := entry
      obtain ⟨hfresh, hrest⟩ := List.nodup_cons.mp hnodup
      rw [collect, List.filterMap_cons, find?]
      by_cases hkey : key = name
      · rw [if_pos hkey]
        cases hf : f old with
        | none =>
            show find? name (collect f rest) = _
            rw [ih hrest, find?_eq_none (hkey ▸ hfresh), Option.bind_some, hf]
            rfl
        | some b =>
            show (if key = name then some b else _) = _
            rw [if_pos hkey, Option.bind_some, hf]
      · rw [if_neg hkey]
        cases f old with
        | none => exact ih hrest
        | some b =>
            show (if key = name then some b else find? name (collect f rest)) = _
            rw [if_neg hkey, ih hrest]

/-- Under another name the same is found as before. -/
theorem find?_assign_of_ne {other : Text} (h : other ≠ name) :
    find? other (assign name value entries) = find? other entries := by
  induction entries with
  | nil => exact if_neg (Ne.symm h)
  | cons entry rest ih =>
      obtain ⟨key, old⟩ := entry
      rw [assign]
      by_cases hkey : key = name
      · rw [if_pos hkey, find?, find?, if_neg (hkey ▸ Ne.symm h), if_neg (hkey ▸ Ne.symm h)]
      · rw [if_neg hkey, find?, find?, ih]

/-- A name that is assigned to keeps its place, or goes to the end if it is new. -/
theorem names_assign (name : Text) (value : α) (entries : Keyed α) :
    names (assign name value entries) =
      if name ∈ names entries then names entries else names entries ++ [name] := by
  induction entries with
  | nil => rfl
  | cons entry rest ih =>
      obtain ⟨key, old⟩ := entry
      rw [assign]
      by_cases hkey : key = name
      · rw [if_pos hkey, if_pos (hkey ▸ List.mem_cons_self)]
        rfl
      · have hmem : name ∈ names ((key, old) :: rest) ↔ name ∈ names rest := by
          rw [names, List.map_cons, List.mem_cons]
          exact or_iff_right (Ne.symm hkey)
        rw [if_neg hkey]
        show key :: names (assign name value rest) = _
        rw [ih]
        by_cases hold : name ∈ names rest
        · rw [if_pos hold, if_pos (hmem.mpr hold)]
          rfl
        · rw [if_neg hold, if_neg (fun h => hold (hmem.mp h))]
          rfl

/-- An assignment keeps the names distinct. -/
theorem nodup_names_assign (h : (names entries).Nodup) (name : Text) (value : α) :
    (names (assign name value entries)).Nodup := by
  rw [names_assign]
  by_cases hold : name ∈ names entries
  · rw [if_pos hold]
    exact h
  · rw [if_neg hold]
    refine List.nodup_append.mpr ⟨h, by simp, ?_⟩
    intro key hkey new hnew heq
    rw [heq, List.mem_singleton.mp hnew] at hkey
    exact hold hkey

/-- So does a removal. -/
theorem nodup_names_remove (h : (names entries).Nodup) (name : Text) :
    (names (remove name entries)).Nodup :=
  h.sublist (List.filter_sublist.map _)

/-- What is kept of the value under a name is under the name in a collection. -/
theorem find?_collect_of_some {f : α → Option β} {kept : β} (h : find? name entries = some value)
    (hf : f value = some kept) : find? name (collect f entries) = some kept := by
  induction entries with
  | nil => cases h
  | cons entry rest ih =>
      obtain ⟨key, old⟩ := entry
      rw [find?] at h
      rw [collect, List.filterMap_cons]
      by_cases hkey : key = name
      · rw [if_pos hkey] at h
        cases h
        rw [hf]
        exact if_pos hkey
      · rw [if_neg hkey] at h
        cases f old with
        | none => exact ih h
        | some b =>
            show (if key = name then some b else _) = _
            rw [if_neg hkey]
            exact ih h

/-- A collection that keeps something of the assigned value has it under the name. -/
theorem find?_collect_assign_self {f : α → Option β} {kept : β} (h : f value = some kept) :
    find? name (collect f (assign name value entries)) = some kept :=
  find?_collect_of_some find?_assign_self h

end SignalLab.Keyed
