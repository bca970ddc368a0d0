import SignalLab.Text.Basic

/-!
# Fallible computations — taking them apart

A fallible computation has a value or a cause why there is none.  Sequencing, mapping the value and
mapping the cause are taken apart here once, so that a computation built of many steps is followed
step by step: what a value came from, and which step a cause came from.  A traversal of a list fails
exactly if it fails at some element, and otherwise has as many results as there are elements.
-/

namespace SignalLab.Fallible

variable {α β ε ε' : Type}

/-! ## Steps -/

/-- A sequence has a result if both of its steps have one. -/
theorem bind_ok_iff {x : Except ε α} {f : α → Except ε β} {b : β} :
    x >>= f = .ok b ↔ ∃ a, x = .ok a ∧ f a = .ok b := by
  cases x with
  | error e =>
      constructor
      · intro h
        cases h
      · rintro ⟨a, ha, -⟩
        cases ha
  | ok a =>
      constructor
      · intro h
        exact ⟨a, rfl, h⟩
      · rintro ⟨a', ha, h⟩
        cases ha
        exact h

/-- A sequence fails where the first of its steps does that fails. -/
theorem bind_error_iff {x : Except ε α} {f : α → Except ε β} {e : ε} :
    x >>= f = .error e ↔ x = .error e ∨ ∃ a, x = .ok a ∧ f a = .error e := by
  cases x with
  | error e' =>
      constructor
      · intro h
        cases h
        exact .inl rfl
      · rintro (h | ⟨a, ha, -⟩)
        · cases h
          rfl
        · cases ha
  | ok a =>
      constructor
      · intro h
        exact .inr ⟨a, rfl, h⟩
      · rintro (h | ⟨a', ha, h⟩)
        · cases h
        · cases ha
          exact h

/-- A sequence has a value if its first step has one and the rest has one for it. -/
theorem exists_bind_ok {x : Except ε α} {f : α → Except ε β} {a : α} (hx : x = .ok a)
    (hf : ∃ b, f a = .ok b) : ∃ b, x >>= f = .ok b := by
  rw [hx]
  exact hf

/-- A function of a result. -/
theorem map_ok_iff {x : Except ε α} {f : α → β} {b : β} :
    x.map f = .ok b ↔ ∃ a, x = .ok a ∧ f a = b := by
  cases x with
  | error e =>
      constructor
      · intro h
        cases h
      · rintro ⟨a, ha, -⟩
        cases ha
  | ok a =>
      constructor
      · intro h
        cases h
        exact ⟨a, rfl, rfl⟩
      · rintro ⟨a', ha, rfl⟩
        cases ha
        rfl

/-- A function of a result leaves errors as they are. -/
theorem map_error_iff {x : Except ε α} {f : α → β} {e : ε} :
    x.map f = .error e ↔ x = .error e := by
  cases x with
  | error e' =>
      constructor
      · intro h
        cases h
        rfl
      · intro h
        cases h
        rfl
  | ok a =>
      constructor
      · intro h
        cases h
      · intro h
        cases h

/-- A function of an error leaves results as they are. -/
theorem mapError_ok_iff {x : Except ε α} {f : ε → ε'} {a : α} :
    x.mapError f = .ok a ↔ x = .ok a := by
  cases x with
  | error e =>
      constructor
      · intro h
        cases h
      · intro h
        cases h
  | ok a' =>
      constructor
      · intro h
        cases h
        rfl
      · intro h
        cases h
        rfl

/-- A function of an error. -/
theorem mapError_error_iff {x : Except ε α} {f : ε → ε'} {e' : ε'} :
    x.mapError f = .error e' ↔ ∃ e, x = .error e ∧ f e = e' := by
  cases x with
  | error e =>
      constructor
      · intro h
        cases h
        exact ⟨e, rfl, rfl⟩
      · rintro ⟨e', he, rfl⟩
        cases he
        rfl
  | ok a =>
      constructor
      · intro h
        cases h
      · rintro ⟨e, he, -⟩
        cases he

theorem isOk_iff {x : Except ε α} : x.isOk = true ↔ ∃ a, x = .ok a := by
  cases x with
  | ok a => exact ⟨fun _ => ⟨a, rfl⟩, fun _ => rfl⟩
  | error e =>
      constructor
      · intro h
        cases h
      · rintro ⟨a, ha⟩
        cases ha

/-- What is left when errors are forgotten is the result. -/
theorem toOption_eq_some_iff {x : Except ε α} {a : α} : x.toOption = some a ↔ x = .ok a := by
  cases x with
  | ok b =>
      constructor
      · intro h
        cases h
        rfl
      · intro h
        cases h
        rfl
  | error e =>
      constructor
      · intro h
        cases h
      · intro h
        cases h

theorem ok_of_toOption {x : Except ε α} {a : α} (h : x.toOption = some a) : x = .ok a :=
  toOption_eq_some_iff.mp h

/-! ## Traversals -/

variable {f : α → Except ε β}

/-- A traversal has one result for each element. -/
theorem length_of_mapM_ok {xs : List α} {ys : List β} (h : xs.mapM f = .ok ys) :
    ys.length = xs.length := by
  induction xs generalizing ys with
  | nil =>
      cases h
      rfl
  | cons x xs ih =>
      rw [List.mapM_cons] at h
      obtain ⟨y, -, h⟩ := bind_ok_iff.mp h
      obtain ⟨zs, hzs, h⟩ := bind_ok_iff.mp h
      cases h
      rw [List.length_cons, List.length_cons, ih hzs]

/-- The first results of a traversal are those of the first elements. -/
theorem mapM_take {xs : List α} {ys : List β} (h : xs.mapM f = .ok ys) (n : Nat) :
    (xs.take n).mapM f = .ok (ys.take n) := by
  induction xs generalizing ys n with
  | nil =>
      obtain rfl : [] = ys := Except.ok.inj h
      rw [List.take_nil, List.take_nil]
      rfl
  | cons x xs ih =>
      rw [List.mapM_cons] at h
      obtain ⟨y, hy, h⟩ := bind_ok_iff.mp h
      obtain ⟨zs, hzs, h⟩ := bind_ok_iff.mp h
      cases h
      cases n with
      | zero => rfl
      | succ n =>
          rw [List.take_succ_cons, List.take_succ_cons, List.mapM_cons, hy]
          show ((xs.take n).mapM f >>= fun ys => Except.ok (y :: ys)) = _
          rw [ih hzs n]
          rfl

/-- The result of a traversal at a place is that of the element there. -/
theorem getElem?_of_mapM_ok {xs : List α} {ys : List β} (h : xs.mapM f = .ok ys) {i : Nat} {x : α}
    (hx : xs[i]? = some x) : ∃ y, f x = .ok y ∧ ys[i]? = some y := by
  induction xs generalizing ys i with
  | nil => cases hx
  | cons z xs ih =>
      rw [List.mapM_cons] at h
      obtain ⟨y, hy, h⟩ := bind_ok_iff.mp h
      obtain ⟨zs, hzs, h⟩ := bind_ok_iff.mp h
      cases h
      cases i with
      | zero =>
          cases hx
          exact ⟨y, hy, rfl⟩
      | succ i => exact ih hzs hx

/-- A traversal whose results show the elements that they are from. -/
theorem map_of_mapM_ok {g : β → α} {xs : List α} {ys : List β} (h : xs.mapM f = .ok ys)
    (hg : ∀ x ∈ xs, ∀ y, f x = .ok y → g y = x) : ys.map g = xs := by
  induction xs generalizing ys with
  | nil =>
      cases h
      rfl
  | cons x xs ih =>
      rw [List.mapM_cons] at h
      obtain ⟨y, hy, h⟩ := bind_ok_iff.mp h
      obtain ⟨zs, hzs, h⟩ := bind_ok_iff.mp h
      cases h
      rw [List.map_cons, hg x List.mem_cons_self y hy,
        ih hzs fun w hw => hg w (List.mem_cons_of_mem _ hw)]

/-- Each result of a traversal is that of an element. -/
theorem exists_of_mem_mapM_ok {xs : List α} {ys : List β} (h : xs.mapM f = .ok ys) :
    ∀ y ∈ ys, ∃ x ∈ xs, f x = .ok y := by
  induction xs generalizing ys with
  | nil =>
      cases h
      intro y hy
      cases hy
  | cons x xs ih =>
      rw [List.mapM_cons] at h
      obtain ⟨y, hy, h⟩ := bind_ok_iff.mp h
      obtain ⟨zs, hzs, h⟩ := bind_ok_iff.mp h
      cases h
      intro z hz
      rcases List.mem_cons.mp hz with rfl | hz
      · exact ⟨x, List.mem_cons_self, hy⟩
      · obtain ⟨w, hw, hfw⟩ := ih hzs z hz
        exact ⟨w, List.mem_cons_of_mem _ hw, hfw⟩

/-- The traversal of elements whose results are known. -/
theorem mapM_map_ok {γ : Type} {a : γ → α} {b : γ → β} {zs : List γ}
    (h : ∀ z ∈ zs, f (a z) = .ok (b z)) : (zs.map a).mapM f = .ok (zs.map b) := by
  induction zs with
  | nil => rfl
  | cons z zs ih =>
      rw [List.map_cons, List.mapM_cons, h z List.mem_cons_self,
        ih fun w hw => h w (List.mem_cons_of_mem _ hw)]
      rfl

/-- An error of a traversal is that of an element. -/
theorem exists_mem_of_mapM_error {xs : List α} {e : ε} (h : xs.mapM f = .error e) :
    ∃ x ∈ xs, f x = .error e := by
  induction xs with
  | nil => cases h
  | cons x xs ih =>
      rw [List.mapM_cons] at h
      rcases bind_error_iff.mp h with hx | ⟨y, -, h⟩
      · exact ⟨x, List.mem_cons_self, hx⟩
      · rcases bind_error_iff.mp h with hxs | ⟨ys, -, h⟩
        · obtain ⟨z, hz, hfz⟩ := ih hxs
          exact ⟨z, List.mem_cons_of_mem _ hz, hfz⟩
        · cases h

/-- A traversal has a result if it has one for each element. -/
theorem exists_mapM_ok {xs : List α} (h : ∀ x ∈ xs, ∃ y, f x = .ok y) :
    ∃ ys, xs.mapM f = .ok ys := by
  cases hxs : xs.mapM f with
  | ok ys => exact ⟨ys, rfl⟩
  | error e =>
      obtain ⟨x, hmem, hx⟩ := exists_mem_of_mapM_error hxs
      obtain ⟨y, hy⟩ := h x hmem
      cases hx.symm.trans hy

/-- A traversal fails if it does for one of the elements, though another may be the first. -/
theorem mapM_error_of_mem {xs : List α} {x : α} {e : ε} (hmem : x ∈ xs) (h : f x = .error e) :
    ∃ e', xs.mapM f = .error e' := by
  cases hxs : xs.mapM f with
  | error e' => exact ⟨e', rfl⟩
  | ok ys =>
      exfalso
      induction xs generalizing ys with
      | nil => cases hmem
      | cons z xs ih =>
          rw [List.mapM_cons] at hxs
          obtain ⟨y, hy, hxs⟩ := bind_ok_iff.mp hxs
          obtain ⟨zs, hzs, -⟩ := bind_ok_iff.mp hxs
          rcases List.mem_cons.mp hmem with rfl | hmem
          · rw [h] at hy
            cases hy
          · exact ih hmem zs hzs

/-- Every step of a fold that has a result had one. -/
theorem exists_of_foldlM_ok {g : β → α → Except ε β} {xs : List α} {b b' : β}
    (h : xs.foldlM g b = .ok b') : ∀ x ∈ xs, ∃ c c', g c x = .ok c' := by
  induction xs generalizing b with
  | nil =>
      intro x hx
      cases hx
  | cons z xs ih =>
      rw [List.foldlM_cons] at h
      obtain ⟨c, hc, hrest⟩ := bind_ok_iff.mp h
      intro x hx
      rcases List.mem_cons.mp hx with rfl | hx
      · exact ⟨b, c, hc⟩
      · exact ih hrest x hx

/-- A function with one cause of failure only: a traversal fails exactly if the function fails at
some element, and for that cause. -/
theorem mapM_error_iff {cause : ε} (hone : ∀ x e, f x = .error e → e = cause) (xs : List α)
    (e : ε) : xs.mapM f = .error e ↔ e = cause ∧ ∃ x ∈ xs, f x = .error cause := by
  constructor
  · intro h
    obtain ⟨x, hmem, hx⟩ := exists_mem_of_mapM_error h
    have he : e = cause := hone x e hx
    exact ⟨he, x, hmem, he ▸ hx⟩
  · rintro ⟨rfl, x, hmem, hx⟩
    obtain ⟨e', he'⟩ := mapM_error_of_mem hmem hx
    obtain ⟨z, -, hz⟩ := exists_mem_of_mapM_error he'
    rw [he', hone z e' hz]

end SignalLab.Fallible
