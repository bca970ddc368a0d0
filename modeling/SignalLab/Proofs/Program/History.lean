import Mathlib.Data.List.Induction
import SignalLab.Proofs.Program.Frame

/-!
# History — a store is what was done to it

A variable is bound by an assignment, keeps its place when it is assigned to again, and loses it
when it is removed.  What a store holds after a sequence of operations can therefore be read off the
sequence, without a run of it: an assignment stands if no later operation removes its variable
(`Store.standing`), the variables are those of the standing assignments in the order of the first of
each, and their values are those of the last of each.

  * `Store.names_after`, `Store.get?_after_iff` — the names and the values after a sequence of
    operations.
  * `Store.reflects_iff` — the insertion-ordered map that a sequence of operations describes is the
    store after them, and no other one.
-/

namespace SignalLab

/-! ## First occurrences -/

/-- A further element counts unless it is there already. -/
theorem eraseDups_concat {α : Type} [BEq α] [LawfulBEq α] (xs : List α) (x : α) :
    (xs ++ [x]).eraseDups = if x ∈ xs then xs.eraseDups else xs.eraseDups ++ [x] := by
  rw [List.eraseDups_append]
  by_cases hmem : x ∈ xs
  · simp [List.removeAll, hmem]
  · simp [List.removeAll, hmem, List.eraseDups_cons]

/-- Removing repetitions and filtering commute. -/
theorem eraseDups_filter {α : Type} [BEq α] [LawfulBEq α] (p : α → Bool) (xs : List α) :
    (xs.filter p).eraseDups = xs.eraseDups.filter p := by
  induction xs using List.reverseRecOn with
  | nil => rfl
  | append_singleton xs x ih =>
      rw [List.filter_append, eraseDups_concat]
      by_cases hp : p x = true
      · rw [List.filter_singleton, hp, cond_true, eraseDups_concat, ih]
        by_cases hmem : x ∈ xs
        · rw [if_pos hmem, if_pos (List.mem_filter.mpr ⟨hmem, hp⟩)]
        · rw [if_neg hmem, if_neg (fun h => hmem (List.mem_filter.mp h).1), List.filter_append,
            List.filter_singleton, hp, cond_true]
      · rw [List.filter_singleton, Bool.eq_false_iff.mpr hp, cond_false, List.append_nil, ih]
        by_cases hmem : x ∈ xs
        · rw [if_pos hmem]
        · rw [if_neg hmem, List.filter_append, List.filter_singleton, Bool.eq_false_iff.mpr hp,
            cond_false, List.append_nil]

/-! ## Keyed values -/

namespace Keyed

variable {α β : Type} {entries entries' : Keyed α}

/-- A name is listed exactly if something is found under it. -/
theorem mem_names_iff {name : Text} :
    name ∈ names entries ↔ (find? name entries).isSome = true := by
  induction entries with
  | nil => simp [names, find?]
  | cons entry rest ih =>
      obtain ⟨key, value⟩ := entry
      rw [names, List.map_cons, List.mem_cons, ← names, ih, find?]
      by_cases hkey : key = name
      · rw [if_pos hkey]
        simp [hkey]
      · rw [if_neg hkey]
        exact or_iff_right (Ne.symm hkey)

/-- A removal takes one name away and keeps the order of the others. -/
theorem names_remove (name : Text) (entries : Keyed α) :
    names (remove name entries) = (names entries).filter (· ≠ name) := by
  rw [names, names, remove, List.filter_map]
  rfl

/-- With one entry for each name, a collection is what `f` keeps of what is found under the names. -/
theorem collect_eq_filterMap_names (f : α → Option β) (hnodup : (names entries).Nodup) :
    collect f entries =
      (names entries).filterMap fun name => ((find? name entries).bind f).map (name, ·) := by
  induction entries with
  | nil => rfl
  | cons entry rest ih =>
      obtain ⟨key, value⟩ := entry
      obtain ⟨hfresh, hrest⟩ := List.nodup_cons.mp hnodup
      have hbehind : ∀ name ∈ names rest,
          ((find? name ((key, value) :: rest)).bind f).map (name, ·) =
            ((find? name rest).bind f).map (name, ·) := by
        intro name hname
        have hne : key ≠ name := fun heq => hfresh (heq ▸ hname)
        rw [find?, if_neg hne]
      rw [collect, names, List.map_cons, List.filterMap_cons, List.filterMap_cons, ← collect, ← names,
        ih hrest, find?, if_pos rfl, Option.bind_some, List.filterMap_congr hbehind]

/-- Entries are told by their names in order and by what is found under these. -/
theorem ext_of_names (hnodup : (names entries).Nodup) (hnames : names entries = names entries')
    (hfind : ∀ name, find? name entries = find? name entries') : entries = entries' := by
  have hall : ∀ entries : Keyed α, collect some entries = entries := by
    intro entries
    simp [collect]
  rw [← hall entries, ← hall entries', collect_eq_filterMap_names some hnodup,
    collect_eq_filterMap_names some (hnames ▸ hnodup), hnames]
  exact List.filterMap_congr fun name _ => by rw [hfind]

end Keyed

namespace Store

/-! ## Operations -/

/-- What can be done to the variables of a store. -/
inductive Operation where
  | set (name : Text) (value : Value)
  | delete (name : Text)
  | clear

namespace Operation

/-- The store after an operation. -/
def apply (s : Store) : Operation → Store
  | set name value => s.set name value
  | delete name => s.delete name
  | clear => s.clear

/-- Whether an operation removes a variable. -/
def removes (name : Text) : Operation → Bool
  | set _ _ => false
  | delete other => other = name
  | clear => true

/-- Whether an operation sets or removes a variable. -/
def touches (name : Text) : Operation → Bool
  | set other _ => other = name
  | delete other => other = name
  | clear => true

end Operation

/-- The store after operations on the empty store. -/
def after (ops : List Operation) : Store :=
  ops.foldl Operation.apply empty

/-- The assignments of a sequence of operations whose variable no later one removes, in order. -/
def standing : List Operation → Keyed Value
  | [] => []
  | .set name value :: ops =>
    if ops.any (·.removes name) then standing ops else (name, value) :: standing ops
  | .delete _ :: ops => standing ops
  | .clear :: ops => standing ops

/-- The value was set under the name, and the name was neither set nor removed since. -/
def LastSet (ops : List Operation) (name : Text) (value : Value) : Prop :=
  ∃ before behind, ops = before ++ .set name value :: behind ∧
    ∀ op ∈ behind, op.touches name = false

/-- One more operation is applied to what the others leave. -/
theorem after_concat (ops : List Operation) (op : Operation) :
    after (ops ++ [op]) = op.apply (after ops) :=
  List.foldl_append

/-- An operation keeps the names distinct. -/
theorem Distinct.apply {s : Store} (h : s.Distinct) (op : Operation) : (op.apply s).Distinct := by
  cases op with
  | set name value => exact h.set name value
  | delete name => exact Keyed.nodup_names_remove h name
  | clear => exact List.nodup_nil

/-- Hence the names of a history are distinct. -/
theorem distinct_after (ops : List Operation) : (after ops).Distinct := by
  induction ops using List.reverseRecOn with
  | nil => exact List.nodup_nil
  | append_singleton ops op ih =>
      rw [after_concat]
      exact ih.apply op

/-! ## Standing assignments -/

/-- A last operation removes the assignments to its variables and adds its own. -/
theorem standing_concat (ops : List Operation) (op : Operation) :
    standing (ops ++ [op]) =
      (standing ops).filter (fun entry => !op.removes entry.1) ++ standing [op] := by
  induction ops with
  | nil => rfl
  | cons first ops ih =>
      cases first with
      | set name value =>
          rw [List.cons_append, standing, standing, ih, List.any_append]
          by_cases hlater : ops.any (·.removes name) = true
          · rw [hlater, Bool.true_or, if_pos rfl, if_pos rfl]
          · rw [Bool.eq_false_iff.mpr hlater, Bool.false_or, if_neg Bool.false_ne_true]
            by_cases hlast : op.removes name = true
            · rw [List.filter_cons_of_neg (by simp [hlast]), if_pos (by simp [hlast])]
            · rw [List.filter_cons_of_pos (by simp [hlast]), if_neg (by simp [hlast]),
                List.cons_append]
      | delete name => exact ih
      | clear => exact ih

section Standing

variable (ops : List Operation) (name : Text)

/-- An assignment stands until its name is removed. -/
theorem standing_concat_set (value : Value) :
    standing (ops ++ [.set name value]) = standing ops ++ [(name, value)] := by
  have hall : (standing ops).filter (fun entry => !(Operation.set name value).removes entry.1) =
      standing ops :=
    List.filter_eq_self.mpr fun _ _ => rfl
  rw [standing_concat, hall]
  rfl

/-- A removal takes away the assignments of its name. -/
theorem standing_concat_delete :
    standing (ops ++ [.delete name]) = Keyed.remove name (standing ops) := by
  rw [standing_concat]
  show _ ++ [] = _
  rw [List.append_nil]
  exact List.filter_congr fun entry _ => by simp [Operation.removes, eq_comm]

/-- Clearing takes away all of them. -/
theorem standing_concat_clear : standing (ops ++ [.clear]) = [] := by
  have hnone : (standing ops).filter (fun entry => !Operation.clear.removes entry.1) = [] :=
    List.filter_eq_nil_iff.mpr fun _ _ => Bool.false_ne_true
  rw [standing_concat, hnone]
  rfl

end Standing

/-! ## Names -/

/-- Assigning to a bound variable keeps it in its place, and one that is not bound goes to the end. -/
theorem names_set (s : Store) (name : Text) (value : Value) :
    (s.set name value).names = if s.contains name then s.names else s.names ++ [name] := by
  show Keyed.names (Keyed.assign name value s.entries) = _
  rw [Keyed.names_assign]
  exact if_congr Keyed.mem_names_iff rfl rfl

/-- A deletion keeps the order of the other names. -/
theorem names_delete (s : Store) (name : Text) :
    (s.delete name).names = s.names.filter (· ≠ name) :=
  Keyed.names_remove name s.entries

/-- The variables after operations are those of the standing assignments, each in the place of the
first of its own. -/
theorem names_after (ops : List Operation) :
    (after ops).names = (Keyed.names (standing ops)).eraseDups := by
  induction ops using List.reverseRecOn with
  | nil => rfl
  | append_singleton ops op ih =>
      rw [after_concat]
      cases op with
      | set name value =>
          have hnames : Keyed.names (standing ops ++ [(name, value)]) =
              Keyed.names (standing ops) ++ [name] :=
            List.map_append
          have hbound : (after ops).contains name = true ↔ name ∈ Keyed.names (standing ops) := by
            rw [← List.mem_eraseDups, ← ih]
            exact Keyed.mem_names_iff.symm
          show ((after ops).set name value).names = _
          rw [names_set, ih, standing_concat_set, hnames, eraseDups_concat]
          exact if_congr hbound rfl rfl
      | delete name =>
          show ((after ops).delete name).names = _
          rw [names_delete, ih, standing_concat_delete, Keyed.names_remove, eraseDups_filter]
      | clear =>
          rw [standing_concat_clear]
          rfl

/-! ## Values -/

/-- The value that was set last is the one a last operation sets, or the one before, if the last
operation leaves the name alone. -/
theorem lastSet_concat_iff {ops : List Operation} {op : Operation} {name : Text} {value : Value} :
    LastSet (ops ++ [op]) name value ↔
      op = .set name value ∨ op.touches name = false ∧ LastSet ops name value := by
  constructor
  · rintro ⟨before, behind, heq, hbehind⟩
    rcases List.eq_nil_or_concat behind with rfl | ⟨behind, last, rfl⟩
    · exact .inl (List.append_inj_right' heq rfl |> List.singleton_inj.mp)
    · rw [List.concat_eq_append] at heq hbehind
      rw [← List.cons_append, ← List.append_assoc] at heq
      obtain ⟨hops, hlast⟩ := List.append_inj' heq rfl
      obtain rfl := List.singleton_inj.mp hlast
      exact .inr ⟨hbehind _ (by simp), before, behind, hops,
        fun op hop => hbehind op (List.mem_append_left _ hop)⟩
  · rintro (rfl | ⟨hop, before, behind, rfl, hbehind⟩)
    · exact ⟨ops, [], rfl, List.forall_mem_nil _⟩
    · refine ⟨before, behind ++ [op], by simp, fun other hother => ?_⟩
      rcases List.mem_append.mp hother with hother | hother
      · exact hbehind other hother
      · rw [List.mem_singleton.mp hother]
        exact hop

/-- A variable has the value that was set last, if it was not removed since. -/
theorem get?_after_iff {ops : List Operation} {name : Text} {value : Value} :
    (after ops).get? name = some value ↔ LastSet ops name value := by
  -- the induction is on the last operation: either it decides about the name or the others do
  induction ops using List.reverseRecOn with
  | nil =>
      refine iff_of_false (fun h => ?_) ?_
      · cases h
      · rintro ⟨before, behind, heq, -⟩
        simp at heq
  | append_singleton ops op ih =>
      rw [after_concat, lastSet_concat_iff, ← ih]
      cases op with
      | set other new =>
          show ((after ops).set other new).get? name = some value ↔ _
          by_cases hname : name = other
          · subst hname
            rw [get?_set_self]
            simp [Operation.touches]
          · rw [get?_set_of_ne hname]
            simp [Operation.touches, Ne.symm hname]
      | delete other =>
          show ((after ops).delete other).get? name = some value ↔ _
          rw [get?_delete]
          by_cases hname : name = other
          · simp [Operation.touches, hname]
          · simp [Operation.touches, hname, Ne.symm hname]
      | clear =>
          refine iff_of_false (fun h => ?_) ?_
          · cases h
          · simp [Operation.touches]

/-! ## Views -/

/-- What the typed views answer for a variable: the one of its kind has its elements, the others
nothing. -/
inductive Views : Option Value → Option Float → Option (List Float) →
    Option (List ComplexDouble) → Prop
  | unbound : Views none none none none
  | scalar (x : Float) : Views (some (.scalar x)) (some x) none none
  | realVector (xs : List Float) : Views (some (.realVector xs)) none (some xs) none
  | complexVector (zs : List ComplexDouble) : Views (some (.complexVector zs)) none none (some zs)

/-- The views of a value exclude each other. -/
theorem views (s : Store) (name : Text) :
    Views (s.get? name) (s.scalar? name) (s.realVector? name) (s.complexVector? name) := by
  rw [scalar?, realVector?, complexVector?]
  rcases s.get? name with _ | (x | xs | zs)
  · exact .unbound
  · exact .scalar x
  · exact .realVector xs
  · exact .complexVector zs

/-- The scalars of a store are those of its names, in their order. -/
theorem scalars_eq {s : Store} (h : s.Distinct) :
    s.scalars = s.names.filterMap fun name => (s.scalar? name).map (name, ·) :=
  Keyed.collect_eq_filterMap_names Value.scalar? h

/-! ## Removed variables -/

/-- A variable that is deleted and assigned again comes last. -/
theorem names_delete_set (s : Store) (name : Text) (value : Value) :
    ((s.delete name).set name value).names = s.names.filter (· ≠ name) ++ [name] := by
  have hunbound : (s.delete name).contains name = false := by
    rw [contains, get?_delete, if_pos rfl]
    rfl
  rw [names_set, hunbound, if_neg Bool.false_ne_true, names_delete]

/-- Removing a variable changes nothing exactly if it is not bound. -/
theorem delete_eq_self_iff (s : Store) (name : Text) :
    s.delete name = s ↔ s.contains name = false := by
  constructor
  · intro h
    rw [← h, contains, get?_delete, if_pos rfl]
    rfl
  · intro h
    have hall : Keyed.remove name s.entries = s.entries := by
      refine List.filter_eq_self.mpr fun entry hentry => decide_eq_true fun heq => ?_
      have hmem : name ∈ Keyed.names s.entries := heq ▸ List.mem_map_of_mem hentry
      rw [Keyed.mem_names_iff] at hmem
      exact Bool.false_ne_true (h.symm.trans hmem)
    rw [delete, hall]

/-! ## Histories -/

/-- A store is the insertion-ordered map, with the last write to each name, that a sequence of
operations on the empty store describes. -/
structure Reflects (s : Store) (ops : List Operation) : Prop where
  /-- The variables stand in the order of the assignments that bound them. -/
  names_eq : s.names = (Keyed.names (standing ops)).eraseDups
  names_nodup : s.names.Nodup
  size_eq : s.size = s.names.length
  mem_names_iff : ∀ name, name ∈ s.names ↔ s.contains name = true
  get?_iff : ∀ name value, s.get? name = some value ↔ LastSet ops name value
  /-- Setting a bound variable keeps its place. -/
  names_set : ∀ name value,
    (s.set name value).names = if s.contains name then s.names else s.names ++ [name]
  /-- Removing a variable and setting it again moves it to the end. -/
  names_delete_set : ∀ name value,
    ((s.delete name).set name value).names = s.names.filter (· ≠ name) ++ [name]
  delete_eq_self_iff : ∀ name, s.delete name = s ↔ s.contains name = false
  views : ∀ name, Views (s.get? name) (s.scalar? name) (s.realVector? name) (s.complexVector? name)
  scalars_eq : s.scalars = s.names.filterMap fun name => (s.scalar? name).map (name, ·)

/-- The store after a sequence of operations is the one that reflects it, and no other does. -/
theorem reflects_iff (s : Store) (ops : List Operation) : s.Reflects ops ↔ s = after ops := by
  constructor
  · intro h
    have hnames : s.names = (after ops).names := h.names_eq.trans (names_after ops).symm
    have hget : ∀ name, s.get? name = (after ops).get? name := by
      intro name
      refine Option.ext fun value => ?_
      rw [h.get?_iff, get?_after_iff]
    have hentries : s.entries = (after ops).entries := Keyed.ext_of_names h.names_nodup hnames hget
    exact congrArg Store.mk hentries
  · rintro rfl
    have hdistinct := distinct_after ops
    exact {
      names_eq := names_after ops
      names_nodup := hdistinct
      size_eq := (List.length_map _).symm
      mem_names_iff := fun _ => Keyed.mem_names_iff
      get?_iff := fun _ _ => get?_after_iff
      names_set := names_set _
      names_delete_set := names_delete_set _
      delete_eq_self_iff := delete_eq_self_iff _
      views := views _
      scalars_eq := scalars_eq hdistinct }

/-- A variable that is set again keeps its place; one that is removed before goes to the end. -/
example :
    let value : Value := .zero
    (after [.set "a" value, .set "b" value, .set "c" value, .delete "a", .set "b" value,
      .delete "d", .set "a" value]).names = ["b".toList, "c".toList, "a".toList] := by
  rfl

end Store

end SignalLab
