import SignalLab.Proofs.Expression.Reads
import SignalLab.Proofs.Keyed
import SignalLab.Proofs.Program.Draws
import SignalLab.Proofs.Program.Moment
import SignalLab.Proofs.Program.Range

/-!
# Dependence — which variables a right-hand side looks at

`Shape.reads` lists the variables that a right-hand side may look up, from its text alone: those that
its expressions read, the one it transforms or asks the length of, and `t` and `f` if it is a wave.

  * `Shape.value_congr` — variables that are not read change neither a value nor why there is none.
  * `Statement.assign_comm` — two assignments that do not read each other's target may change places.

Expressions are evaluated against the scalars of a store, which are found under their names only if no
name has two entries (`Store.Distinct`).  Every store of a run is of that kind
(`Program.Reaches.distinct`).
-/

namespace SignalLab

open Expression (readsOf)

/-! ## Stores -/

namespace Store

/-- No name of a store has two entries. -/
def Distinct (store : Store) : Prop := store.names.Nodup

/-- Two stores bind the given names alike. -/
def AgreeOn (names : List Text) (store store' : Store) : Prop :=
  ∀ id ∈ names, store.get? id = store'.get? id

variable {store store' : Store}

/-- An assignment keeps the names distinct. -/
theorem Distinct.set (h : store.Distinct) (name : Text) (value : Value) :
    (store.set name value).Distinct :=
  Keyed.nodup_names_assign h name value

/-- So does a removal. -/
theorem Distinct.deleteAll (h : store.Distinct) (names : List Text) :
    (names.foldl Store.delete store).Distinct := by
  induction names generalizing store with
  | nil => exact h
  | cons name names ih => exact ih (Keyed.nodup_names_remove h name)

/-- A variable has the value that it is assigned. -/
theorem get?_set_self (store : Store) (name : Text) (value : Value) :
    (store.set name value).get? name = some value :=
  Keyed.find?_assign_self

/-- Any other variable has the value that it had. -/
theorem get?_set_of_ne {name other : Text} (h : other ≠ name) (store : Store) (value : Value) :
    (store.set name value).get? other = store.get? other :=
  Keyed.find?_assign_of_ne h

/-- The scalars of a store under a name. -/
theorem find?_scalars (h : store.Distinct) (id : Text) :
    Keyed.find? id store.scalars = store.scalar? id :=
  Keyed.find?_collect Value.scalar? h id

/-- Stores that agree on names agree on some of them. -/
theorem AgreeOn.mono {names names' : List Text} (hsub : ∀ id ∈ names', id ∈ names)
    (h : AgreeOn names store store') : AgreeOn names' store store' :=
  fun id hid => h id (hsub id hid)

/-- Stores that agree have the same scalars, if their names are distinct. -/
theorem AgreeOn.scalars {names : List Text} (hstore : store.Distinct) (hstore' : store'.Distinct)
    (h : AgreeOn names store store') :
    Expression.AgreeOn names store.scalars store'.scalars := by
  intro id hid
  rw [find?_scalars hstore, find?_scalars hstore', scalar?, scalar?, h id hid]

/-- Two assignments to different variables leave the same in either order. -/
theorem get?_set_comm {name other : Text} (h : name ≠ other) (store : Store) (v w : Value)
    (id : Text) :
    ((store.set other w).set name v).get? id = ((store.set name v).set other w).get? id := by
  by_cases hname : id = name
  · rw [hname, get?_set_self, get?_set_of_ne h, get?_set_self]
  · rw [get?_set_of_ne hname]
    by_cases hother : id = other
    · rw [hother, get?_set_self, get?_set_self]
    · rw [get?_set_of_ne hother, get?_set_of_ne hother, get?_set_of_ne hname]

/-- An assignment is seen under its own name only. -/
theorem AgreeOn.set {names : List Text} {name : Text} (h : name ∉ names) (store : Store)
    (value : Value) : AgreeOn names (store.set name value) store := by
  intro id hid
  have hne : id ≠ name := by
    intro heq
    exact h (heq ▸ hid)
  exact get?_set_of_ne hne store value

end Store

/-! ## Right-hand sides -/

namespace Shape

/-- The names that a size in a call of random numbers may look up. -/
def sizeReads (arg : Text) : List Text :=
  match lengthOf? ["length", "numel", "size"] arg with
  | some name => [name]
  | none => readsOf arg

/-- The names that a right-hand side may look up.  What the argument of a wave says is not looked at,
nor is what stands around the name of a transformed variable. -/
def reads : Shape → List Text
  | .range r => r.toList.flatMap readsOf
  | .wave _ => ["t", "f"]
  | .transform argument => argument.toList
  | .random sizes => sizes.flatMap sizeReads
  | .literal _ => []
  | .arithmetic expr => readsOf expr

variable {s : Settings} {store store' : Store}

/-- A number depends on the variables that it reads. -/
theorem number_congr (hstore : store.Distinct) (hstore' : store'.Distinct) {expr : Text}
    (h : Store.AgreeOn (readsOf expr) store store') :
    number s store expr = number s store' expr := by
  rw [number, number, Expression.evaluate_congr (h.scalars hstore hstore')]

/-- So does a range, on those of its bounds and its step. -/
theorem rangeValue_congr (hstore : store.Distinct) (hstore' : store'.Distinct) {r : RangeText}
    (h : Store.AgreeOn (Shape.range r).reads store store') :
    rangeValue s store r = rangeValue s store' r := by
  have hpart : ∀ part ∈ r.toList, number s store part = number s store' part := by
    intro part hpart
    refine number_congr hstore hstore' (h.mono ?_)
    intro id hid
    exact List.mem_flatMap.mpr ⟨part, hpart, hid⟩
  have hstart : number s store r.start = number s store' r.start :=
    hpart r.start List.mem_cons_self
  have hstop : number s store r.stop = number s store' r.stop :=
    hpart r.stop (List.mem_cons_of_mem _ (List.mem_append_right _ List.mem_cons_self))
  have hstep : stepValue s store r = stepValue s store' r := by
    rw [stepValue, stepValue]
    cases hwritten : r.step with
    | none => rfl
    | some step =>
        refine hpart step (List.mem_cons_of_mem _ (List.mem_append_left _ ?_))
        rw [hwritten]
        exact List.mem_cons_self
  rw [rangeValue_eq, rangeValue_eq, hstart, hstep, hstop]

/-- A wave depends on the times and the frequency. -/
theorem waveValue_congr {isSine : Bool}
    (h : Store.AgreeOn (Shape.wave isSine).reads store store') :
    waveValue s store isSine = waveValue s store' isSine := by
  have ht : store.get? "t" = store'.get? "t" := h _ List.mem_cons_self
  have hf : store.get? "f" = store'.get? "f" :=
    h _ (List.mem_cons_of_mem _ List.mem_cons_self)
  rw [waveValue, waveValue, Store.realVector?, Store.realVector?, Store.scalar?, Store.scalar?, ht,
    hf]

/-- A transform depends on the variable that it names. -/
theorem transformValue_congr {argument : Option Text}
    (h : Store.AgreeOn (Shape.transform argument).reads store store') :
    transformValue s store argument = transformValue s store' argument := by
  cases argument with
  | none => rfl
  | some name =>
      have hname : store.get? name = store'.get? name := h name List.mem_cons_self
      rw [transformValue, transformValue, Store.realVector?, Store.realVector?, hname]

/-- A size depends on the variables that it reads, or on the one whose length it is. -/
theorem size_congr (hstore : store.Distinct) (hstore' : store'.Distinct) {arg : Text}
    (h : Store.AgreeOn (sizeReads arg) store store') : size s store arg = size s store' arg := by
  rw [sizeReads] at h
  rw [size, size]
  cases hlength : lengthOf? ["length", "numel", "size"] arg with
  | none =>
      rw [hlength] at h
      rw [number_congr hstore hstore' h]
  | some name =>
      rw [hlength] at h
      have hname : store.get? name = store'.get? name := h name List.mem_cons_self
      show Except.ok ((elementCount (store.get? name) : Nat) : Int) = _
      rw [hname]

/-- So do sizes together. -/
theorem totalSize_congr (hstore : store.Distinct) (hstore' : store'.Distinct) {sizes : List Text}
    (h : Store.AgreeOn (Shape.random sizes).reads store store') :
    totalSize s store sizes = totalSize s store' sizes := by
  rw [totalSize, totalSize]
  -- the product so far is the same on both sides
  generalize 1 = total
  induction sizes generalizing total with
  | nil => rfl
  | cons arg sizes ih =>
      have harg : size s store arg = size s store' arg :=
        size_congr hstore hstore' (h.mono fun id hid => List.mem_append_left _ hid)
      have hsizes : Store.AgreeOn (Shape.random sizes).reads store store' :=
        h.mono fun id hid => List.mem_append_right _ hid
      rw [List.foldlM_cons, List.foldlM_cons, harg]
      exact congrArg _ (funext fun total => ih hsizes total)

/-- Variables that a right-hand side does not read change neither its value nor why it has none. -/
theorem value_congr (hstore : store.Distinct) (hstore' : store'.Distinct) (draw : Nat → Float)
    (used : Nat) {shape : Shape} (h : Store.AgreeOn shape.reads store store') :
    shape.value s draw used store = shape.value s draw used store' := by
  cases shape with
  | range r => rw [value, value, rangeValue_congr hstore hstore' h]
  | wave isSine => rw [value, value, waveValue_congr h]
  | transform argument => rw [value, value, transformValue_congr h]
  | random sizes =>
      rw [value, value, randomCount, randomCount, totalSize_congr hstore hstore' h]
  | literal x => rfl
  | arithmetic expr => rw [value, value, number_congr hstore hstore' h]

end Shape

/-! ## Runs -/

namespace Statement

/-- A statement keeps the names distinct. -/
theorem exec_distinct {st : State} (h : st.store.Distinct) (s : Settings) (draw : Nat → Float)
    (t : Statement) : (t.exec s draw st).1.store.Distinct := by
  have hprint : ∀ lines, (emitAll s st lines).1.store.Distinct := by
    intro lines
    obtain ⟨front, -, hfront⟩ := emitAll_eq_withLines s st lines
    rw [hfront]
    exact h
  cases t with
  | assign name expr =>
      rw [exec, assignTo]
      cases evaluateExpression s draw st.draws st.store expr with
      | error failure => exact h
      | ok drawn => exact h.set name drawn.value
  | print call =>
      rw [exec_print]
      exact hprint _
  | plot => exact h
  | clearAll => exact List.nodup_nil
  | clear names => exact h.deleteAll names
  | clearConsole => exact hprint _
  | close => exact h
  | echo text => exact hprint _
  | blank => exact h

end Statement

/-- No name has two entries in the store of a run. -/
theorem Program.Reaches.distinct {s : Settings} {clock draw : Nat → Float} {draws : Nat}
    {code : Text} {m : Moment} (h : Reaches s clock draw (.start draws code) m) :
    m.state.store.Distinct := by
  induction h with
  | refl => exact List.nodup_nil
  | @step steps st st' line text rest _ _ hrun ih =>
      have hexec := Statement.exec_distinct ih s draw (Statement.ofText text)
      rw [← Statement.run, hrun] at hexec
      exact hexec

/-! ## Assignments that change places -/

/-- An assignment to a variable that is not read changes no value. -/
theorem evaluateExpression_set {store : Store} (hstore : store.Distinct) {name expr : Text}
    (h : name ∉ (Shape.ofText expr).reads) (s : Settings) (draw : Nat → Float) (used : Nat)
    (value : Value) :
    evaluateExpression s draw used (store.set name value) expr =
      evaluateExpression s draw used store expr :=
  Shape.value_congr (hstore.set name value) hstore draw used (Store.AgreeOn.set h store value)

namespace Statement

variable {s : Settings} {draw : Nat → Float} {st st' st₁ st₂ : State} {name expr : Text}

/-- Without random numbers an assignment binds the value of its right-hand side and changes nothing
else; it succeeds if there is one. -/
theorem exec_assign_ok_iff (hrandom : (Shape.ofText expr).isRandom = false) :
    (assign name expr).exec s draw st = (st', none) ↔
      ∃ value, evaluateExpression s draw st.draws st.store expr = .ok ⟨value, 0⟩ ∧
        { st with store := st.store.set name value } = st' := by
  rw [exec, assignTo]
  cases hvalue : evaluateExpression s draw st.draws st.store expr with
  | error failure =>
      constructor
      · intro h
        cases h
      · rintro ⟨value, h, -⟩
        cases h
  | ok drawn =>
      have hdraws : drawn.draws = 0 := Shape.draws_of_not_random hrandom hvalue
      obtain ⟨value, draws⟩ := drawn
      obtain rfl : draws = 0 := hdraws
      constructor
      · intro h
        cases h
        exact ⟨value, rfl, rfl⟩
      · rintro ⟨value', h, rfl⟩
        cases h
        rfl

/-- Two assignments that do not read each other's target may change places. -/
theorem assign_comm {a b e₁ e₂ : Text} (hdistinct : st.store.Distinct) (hne : a ≠ b)
    (hrandom₁ : (Shape.ofText e₁).isRandom = false)
    (hrandom₂ : (Shape.ofText e₂).isRandom = false)
    (hb : b ∉ (Shape.ofText e₁).reads) (ha : a ∉ (Shape.ofText e₂).reads)
    (h₁ : (assign a e₁).exec s draw st = (st₁, none))
    (h₂ : (assign b e₂).exec s draw st₁ = (st₂, none)) :
    ∃ st₁' st₂', (assign b e₂).exec s draw st = (st₁', none) ∧
      (assign a e₁).exec s draw st₁' = (st₂', none) ∧
      ∀ id, st₂'.store.get? id = st₂.store.get? id := by
  obtain ⟨v, hv, rfl⟩ := (exec_assign_ok_iff hrandom₁).mp h₁
  obtain ⟨w, hw, rfl⟩ := (exec_assign_ok_iff hrandom₂).mp h₂
  -- each value is the same whether or not the other variable is assigned already
  refine ⟨{ st with store := st.store.set b w },
    { st with store := (st.store.set b w).set a v }, ?_, ?_, ?_⟩
  · refine (exec_assign_ok_iff hrandom₂).mpr ⟨w, ?_, rfl⟩
    rw [← hw]
    exact (evaluateExpression_set hdistinct ha s draw st.draws v).symm
  · refine (exec_assign_ok_iff hrandom₁).mpr ⟨v, ?_, rfl⟩
    rw [← hv]
    exact evaluateExpression_set hdistinct hb s draw st.draws w
  · exact Store.get?_set_comm hne st.store v w

end Statement

/-- What a right-hand side comes to depends on the variables it reads only: with these bound alike, it
has the same value or fails for the same reason.  Two assignments without random numbers that do
not read each other's target therefore leave the same variables in either order.  The stores that a
program reaches are all of the kind that this is about. -/
theorem evaluation_depends_on_reads (s : Settings) (draw : Nat → Float) :
    (∀ (used : Nat) (expr : Text) (store store' : Store), store.Distinct → store'.Distinct →
      Store.AgreeOn (Shape.ofText expr).reads store store' →
        evaluateExpression s draw used store expr = evaluateExpression s draw used store' expr) ∧
    (∀ (st st₁ st₂ : State) (a b e₁ e₂ : Text), st.store.Distinct → a ≠ b →
      (Shape.ofText e₁).isRandom = false → (Shape.ofText e₂).isRandom = false →
      b ∉ (Shape.ofText e₁).reads → a ∉ (Shape.ofText e₂).reads →
      (Statement.assign a e₁).exec s draw st = (st₁, none) →
      (Statement.assign b e₂).exec s draw st₁ = (st₂, none) →
        ∃ st₁' st₂', (Statement.assign b e₂).exec s draw st = (st₁', none) ∧
          (Statement.assign a e₁).exec s draw st₁' = (st₂', none) ∧
          ∀ id, st₂'.store.get? id = st₂.store.get? id) ∧
    ∀ (clock : Nat → Float) (draws : Nat) (code : Text) (m : Program.Moment),
      Program.Reaches s clock draw (.start draws code) m → m.state.store.Distinct := by
  refine ⟨?_, ?_, ?_⟩
  · intro used expr store store' hstore hstore' hagree
    exact Shape.value_congr hstore hstore' draw used hagree
  · intro st st₁ st₂ a b e₁ e₂ hdistinct hne hrandom₁ hrandom₂ hb ha h₁ h₂
    exact Statement.assign_comm hdistinct hne hrandom₁ hrandom₂ hb ha h₁ h₂
  · intro clock draws code m hreach
    exact hreach.distinct

/-- Two stores in different order that differ in `z` have the same random vector of the length of `v`
times `n + 1`, and of two assignments that read `n` the first may be the second. -/
theorem evaluation_depends_on_reads_of_order :
    let s : Settings := Settings.standard
    let v : Value := .realVector [1.0, 2.0]
    let store : Store := ⟨[("v", v), ("n", .scalar 2.0), ("z", .scalar 5.0)]⟩
    let store' : Store := ⟨[("n", .scalar 2.0), ("v", v)]⟩
    let st : State := ⟨store', [], [], 0⟩
    let x : Statement := .assign "x" "2*n"
    let y : Statement := .assign "y" "abs(n) - 1"
    (Shape.ofText "rand(length(v), n + 1)").reads = ["v", "n"] ∧
    evaluateExpression s Double.ofNat 0 store "rand(length(v), n + 1)" =
      evaluateExpression s Double.ofNat 0 store' "rand(length(v), n + 1)" ∧
    (evaluateExpression s Double.ofNat 0 store' "rand(length(v), n + 1)").isOk = true ∧
    (x.exec s Double.ofNat st).1.store.names = ["n", "v", "x"] ∧
    (y.exec s Double.ofNat st).1.store.names = ["n", "v", "y"] ∧
    ∃ st₁' st₂', y.exec s Double.ofNat st = (st₁', none) ∧
      x.exec s Double.ofNat st₁' = (st₂', none) ∧
      ∀ id, st₂'.store.get? id =
        (y.exec s Double.ofNat (x.exec s Double.ofNat st).1).1.store.get? id := by
  intro s v store store' st x y
  obtain ⟨hdepends, hcomm, -⟩ := evaluation_depends_on_reads s Double.ofNat
  have hreads : (Shape.ofText "rand(length(v), n + 1)").reads = ["v", "n"] := by decide +kernel
  have hagree : Store.AgreeOn (Shape.ofText "rand(length(v), n + 1)").reads store store' := by
    rw [hreads]
    intro id hid
    rcases List.mem_cons.mp hid with rfl | hid
    · rfl
    · obtain rfl := List.mem_singleton.mp hid
      rfl
  have hok : ∀ result : State × Option Failure, result.2 = none → result = (result.1, none) := by
    rintro ⟨st', failure⟩ rfl
    rfl
  have hx : (x.exec s Double.ofNat st).2 = none := by decide +kernel
  have hy : (y.exec s Double.ofNat (x.exec s Double.ofNat st).1).2 = none := by decide +kernel
  refine ⟨hreads, hdepends 0 _ store store' ?_ ?_ hagree, by decide +kernel, by decide +kernel,
    by decide +kernel, ?_⟩
  · show List.Nodup _
    decide
  · show List.Nodup _
    decide
  · refine hcomm st (x.exec s Double.ofNat st).1
      (y.exec s Double.ofNat (x.exec s Double.ofNat st).1).1 "x" "y" "2*n" "abs(n) - 1" ?_
      (by decide) (by decide +kernel) (by decide +kernel) (by decide +kernel) (by decide +kernel)
      ?_ ?_
    · show List.Nodup _
      decide
    · exact hok _ hx
    · exact hok _ hy

end SignalLab
