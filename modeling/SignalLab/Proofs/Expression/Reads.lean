import SignalLab.Expression.Evaluation

/-!
# Reads — which names an expression looks up

An evaluation is handed a whole environment and looks up a few names in it.  `Tree.reads` lists the
names that it may look up, and `readsOf` does so for a text.  Names that are not read change neither
a value nor why there is none (`Tree.eval_congr`, `evaluate_congr`).
-/

namespace SignalLab

namespace Expression

/-! ## Names -/

mutual

/-- The names that an evaluation of a tree may look up.  The name of a called function is not looked
up, and constructs that have no value are refused before anything in them is. -/
def Tree.reads : Tree → List Text
  | .literal _ => []
  | .name id => [id]
  | .unary _ t => t.reads
  | .binary _ l r => l.reads ++ r.reads
  | .call _ args _ => readsOfAll args
  | .other _ _ => []

/-- The names that an evaluation of several trees may look up. -/
def readsOfAll : List Tree → List Text
  | [] => []
  | t :: ts => t.reads ++ readsOfAll ts

end

/-- The names that an evaluation of a text may look up. -/
def readsOf (s : Text) : List Text :=
  match parseText? s with
  | none => []
  | some t => t.reads

/-! ## Environments that agree -/

/-- Two environments bind the given names alike. -/
def AgreeOn (names : List Text) (env env' : Environment) : Prop :=
  ∀ id ∈ names, Keyed.find? id env = Keyed.find? id env'

variable {env env' : Environment}

/-- What agrees on all names agrees on some of them. -/
theorem AgreeOn.left {xs ys : List Text} (h : AgreeOn (xs ++ ys) env env') :
    AgreeOn xs env env' :=
  fun id hid => h id (List.mem_append_left ys hid)

theorem AgreeOn.right {xs ys : List Text} (h : AgreeOn (xs ++ ys) env env') :
    AgreeOn ys env env' :=
  fun id hid => h id (List.mem_append_right xs hid)

mutual

/-- A tree has the same value, or the same cause why there is none, where its names are bound
alike. -/
theorem Tree.eval_congr {t : Tree} (h : AgreeOn t.reads env env') : t.eval env = t.eval env' := by
  cases t with
  | literal l =>
      rw [Tree.eval, Tree.eval]
  | name id =>
      rw [Tree.reads] at h
      rw [Tree.eval, Tree.eval, nameValue, nameValue, h id List.mem_cons_self]
  | unary op t =>
      rw [Tree.reads] at h
      rw [Tree.eval, Tree.eval, Tree.eval_congr h]
  | binary op l r =>
      rw [Tree.reads] at h
      rw [Tree.eval, Tree.eval, Tree.eval_congr h.left, Tree.eval_congr h.right]
  | call c args keywords =>
      -- the called function comes from the table of functions, not from the environment
      rw [Tree.reads] at h
      rw [Tree.eval, Tree.eval, evalAll_congr h]
  | other kind parts =>
      rw [Tree.eval, Tree.eval]

theorem evalAll_congr {ts : List Tree} (h : AgreeOn (readsOfAll ts) env env') :
    evalAll env ts = evalAll env' ts := by
  cases ts with
  | nil => rw [evalAll, evalAll]
  | cons t ts =>
      rw [readsOfAll] at h
      rw [evalAll, evalAll, Tree.eval_congr h.left, evalAll_congr h.right]

end

/-- So does a text, which is parsed without the environment. -/
theorem evalText_congr {s : Text} (h : AgreeOn (readsOf s) env env') :
    evalText env s = evalText env' s := by
  rw [evalText, evalText, valueOf, valueOf]
  rw [readsOf] at h
  cases hparse : parseText? s with
  | none => rfl
  | some t =>
      rw [hparse] at h
      show Except.mapError _ (t.value env) = Except.mapError _ (t.value env')
      rw [Tree.value, Tree.value, Tree.eval_congr h]

/-- So does an evaluation under a policy, since the recovery looks at no name. -/
theorem evaluate_congr {policy : FallbackPolicy} {s : Text} (h : AgreeOn (readsOf s) env env') :
    evaluate policy env s = evaluate policy env' s := by
  unfold evaluate
  rw [evalText_congr h]

end Expression

end SignalLab
