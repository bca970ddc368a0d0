import SignalLab.Expression.Evaluation
import SignalLab.Proofs.Fallible

/-!
# Whitelist — what a tree with a value is made of

Evaluation refuses a construct only when it meets it, so that nothing may hide in a part that is
never visited.  It visits every part: an operation has a value only if all its operands have one,
and a call only if its callee is the plain name of a function, it has no keywords, and all its
arguments have a value.  By induction on the place of a node, every node of a tree with a value is
therefore one of the permitted kinds (`Within.permitted`); the name that a call names is
the one node which is not evaluated.
-/

namespace SignalLab.Expression

open Fallible

/-! ## The nodes of a tree -/

/-- The tree `u` is a node of another one: the tree itself, or a node of one of its parts. -/
inductive Within (u : Tree) : Tree → Prop
  | self : Within u u
  | operand {op : UnaryOp} {t : Tree} (h : Within u t) : Within u (.unary op t)
  | left {op : BinaryOp} {l r : Tree} (h : Within u l) : Within u (.binary op l r)
  | right {op : BinaryOp} {l r : Tree} (h : Within u r) : Within u (.binary op l r)
  | callee {c : Tree} {args keywords : List Tree} (h : Within u c) :
      Within u (.call c args keywords)
  | argument {c t : Tree} {args keywords : List Tree} (mem : t ∈ args) (h : Within u t) :
      Within u (.call c args keywords)
  | keyword {c t : Tree} {args keywords : List Tree} (mem : t ∈ keywords) (h : Within u t) :
      Within u (.call c args keywords)
  | part {kind : Construct} {t : Tree} {parts : List Tree} (mem : t ∈ parts) (h : Within u t) :
      Within u (.other kind parts)

mutual

/-- Whether a construct that has no value occurs in a tree. -/
def hasConstruct : Tree → Bool
  | .literal _ => false
  | .name _ => false
  | .unary _ t => hasConstruct t
  | .binary _ l r => hasConstruct l || hasConstruct r
  | .call c args keywords => hasConstruct c || anyHasConstruct args || anyHasConstruct keywords
  | .other _ _ => true

/-- Whether such a construct occurs in one of several trees. -/
def anyHasConstruct : List Tree → Bool
  | [] => false
  | t :: ts => hasConstruct t || anyHasConstruct ts

end

mutual

/-- A construct that occurs in a tree is a node of it. -/
theorem exists_within_of_hasConstruct {t : Tree} (h : hasConstruct t = true) :
    ∃ kind parts, Within (.other kind parts) t := by
  cases t with
  | literal l =>
      rw [hasConstruct] at h
      cases h
  | name id =>
      rw [hasConstruct] at h
      cases h
  | unary op t =>
      rw [hasConstruct] at h
      obtain ⟨kind, parts, hwithin⟩ := exists_within_of_hasConstruct h
      exact ⟨kind, parts, .operand hwithin⟩
  | binary op l r =>
      rw [hasConstruct, Bool.or_eq_true] at h
      rcases h with h | h
      · obtain ⟨kind, parts, hwithin⟩ := exists_within_of_hasConstruct h
        exact ⟨kind, parts, .left hwithin⟩
      · obtain ⟨kind, parts, hwithin⟩ := exists_within_of_hasConstruct h
        exact ⟨kind, parts, .right hwithin⟩
  | call c args keywords =>
      rw [hasConstruct, Bool.or_eq_true, Bool.or_eq_true] at h
      rcases h with (h | h) | h
      · obtain ⟨kind, parts, hwithin⟩ := exists_within_of_hasConstruct h
        exact ⟨kind, parts, .callee hwithin⟩
      · obtain ⟨u, hu, kind, parts, hwithin⟩ := exists_within_of_anyHasConstruct h
        exact ⟨kind, parts, .argument hu hwithin⟩
      · obtain ⟨u, hu, kind, parts, hwithin⟩ := exists_within_of_anyHasConstruct h
        exact ⟨kind, parts, .keyword hu hwithin⟩
  | other kind parts => exact ⟨kind, parts, .self⟩

theorem exists_within_of_anyHasConstruct {ts : List Tree} (h : anyHasConstruct ts = true) :
    ∃ t ∈ ts, ∃ kind parts, Within (.other kind parts) t := by
  cases ts with
  | nil =>
      rw [anyHasConstruct] at h
      cases h
  | cons t ts =>
      rw [anyHasConstruct, Bool.or_eq_true] at h
      rcases h with h | h
      · exact ⟨t, List.mem_cons_self, exists_within_of_hasConstruct h⟩
      · obtain ⟨u, hu, hwithin⟩ := exists_within_of_anyHasConstruct h
        exact ⟨u, List.mem_cons_of_mem _ hu, hwithin⟩

end

/-- What a node may be: a numeric literal, a name that is bound or a constant, a sign, one of the
four arithmetic operations, a power whose exponent is not too large, or a call of a function by its
name and with positional arguments only. -/
inductive Permitted (env : Environment) : Tree → Prop
  | integer (n : Nat) : Permitted env (.literal (.integer n))
  | real (x : Float) : Permitted env (.literal (.real x))
  | bound {id : Text} (h : (Keyed.find? id env).isSome = true) : Permitted env (.name id)
  | constant {id : Text} (h : (constant? id).isSome = true) : Permitted env (.name id)
  | sign {op : UnaryOp} (h : op ∈ [UnaryOp.plus, .minus]) (t : Tree) : Permitted env (.unary op t)
  | arithmetic {op : BinaryOp} (h : op ∈ [BinaryOp.add, .sub, .mul, .div]) (l r : Tree) :
      Permitted env (.binary op l r)
  | power {r : Tree} {b size : Quantity} (exponent : r.eval env = .ok b)
      (magnitude : b.abs = .ok size) (small : size.exceeds maxExponent = false) (l : Tree) :
      Permitted env (.binary .pow l r)
  | call {id : Text} (h : (function? id).isSome = true) (args : List Tree) :
      Permitted env (.call (.name id) args [])

/-- The node `u` is the name by which a call in `t` calls a function. -/
def CalledIn (u t : Tree) : Prop :=
  ∃ id args keywords, u = .name id ∧ (function? id).isSome = true ∧
    Within (.call u args keywords) t

theorem Within.trans {u v t : Tree} (huv : Within u v) (hvt : Within v t) : Within u t := by
  induction hvt with
  | self => exact huv
  | operand _ ih => exact .operand ih
  | left _ ih => exact .left ih
  | right _ ih => exact .right ih
  | callee _ ih => exact .callee ih
  | argument mem _ ih => exact .argument mem ih
  | keyword mem _ ih => exact .keyword mem ih
  | part mem _ ih => exact .part mem ih

theorem CalledIn.within {u v t : Tree} (h : CalledIn u v) (hvt : Within v t) : CalledIn u t := by
  obtain ⟨id, args, keywords, hu, hfunction, hcall⟩ := h
  exact ⟨id, args, keywords, hu, hfunction, hcall.trans hvt⟩

/-! ## What has a value, by its outermost construct -/

variable {env : Environment} {x : Quantity}

theorem eval_unary_ok {op : UnaryOp} {t : Tree} (h : (Tree.unary op t).eval env = .ok x) :
    ∃ a, t.eval env = .ok a ∧ op.apply a = .ok x := by
  rw [Tree.eval] at h
  exact bind_ok_iff.mp h

theorem eval_binary_ok {op : BinaryOp} {l r : Tree} (h : (Tree.binary op l r).eval env = .ok x) :
    ∃ a b, l.eval env = .ok a ∧ r.eval env = .ok b ∧ op.apply a b = .ok x := by
  rw [Tree.eval] at h
  obtain ⟨a, ha, h⟩ := bind_ok_iff.mp h
  obtain ⟨b, hb, h⟩ := bind_ok_iff.mp h
  exact ⟨a, b, ha, hb, h⟩

/-- A call with a value names a function and has no keywords. -/
theorem eval_call_ok {c : Tree} {args keywords : List Tree}
    (h : (Tree.call c args keywords).eval env = .ok x) :
    ∃ id f xs, c = .name id ∧ keywords = [] ∧ function? id = some f ∧
      evalAll env args = .ok xs ∧ f.apply xs = .ok x := by
  rw [Tree.eval] at h
  obtain ⟨f, hf, hrest⟩ := bind_ok_iff.mp h
  obtain ⟨xs, hxs, happly⟩ := bind_ok_iff.mp hrest
  unfold calledFunction at hf
  split at hf
  · rename_i id
    split at hf
    · rename_i g hg
      cases hf
      exact ⟨id, f, xs, rfl, rfl, hg, hxs, happly⟩
    · cases hf
  · cases hf

theorem eval_other_ne_ok {kind : Construct} {parts : List Tree} :
    (Tree.other kind parts).eval env ≠ .ok x := by
  intro h
  rw [Tree.eval] at h
  cases h

/-- Arguments have values only if each of them has one. -/
theorem eval_ok_of_mem_args {args : List Tree} {xs : List Quantity}
    (h : evalAll env args = .ok xs) {t : Tree} (hmem : t ∈ args) : ∃ a, t.eval env = .ok a := by
  induction args generalizing xs with
  | nil => cases hmem
  | cons s args ih =>
      rw [evalAll] at h
      obtain ⟨a, ha, h⟩ := bind_ok_iff.mp h
      obtain ⟨ys, hys, -⟩ := bind_ok_iff.mp h
      rcases List.mem_cons.mp hmem with rfl | hmem
      · exact ⟨a, ha⟩
      · exact ih hys hmem

/-- A power has a value only if its exponent has a magnitude that is not too large. -/
theorem exponent_of_apply_pow_ok {a b : Quantity} (h : BinaryOp.pow.apply a b = .ok x) :
    ∃ size, b.abs = .ok size ∧ size.exceeds maxExponent = false := by
  rw [BinaryOp.apply] at h
  obtain ⟨size, hsize, h⟩ := bind_ok_iff.mp h
  refine ⟨size, mapError_ok_iff.mp hsize, ?_⟩
  cases hlarge : size.exceeds maxExponent with
  | false => rfl
  | true =>
      rw [hlarge] at h
      cases h

/-! ## Every node -/

/-- A tree with a value is of a permitted kind. -/
theorem permitted_of_eval {t : Tree} (h : t.eval env = .ok x) : Permitted env t := by
  cases t with
  | literal l =>
      cases l with
      | integer n => exact .integer n
      | real y => exact .real y
      | notNumeric =>
          rw [Tree.eval] at h
          cases h
  | name id =>
      rw [Tree.eval, nameValue] at h
      split at h
      · rename_i y hbound
        exact .bound (by rw [hbound]; rfl)
      · split at h
        · rename_i y hconstant
          exact .constant (by rw [hconstant]; rfl)
        · cases h
  | unary op t =>
      obtain ⟨a, -, happly⟩ := eval_unary_ok h
      cases op with
      | plus => exact .sign (by simp) t
      | minus => exact .sign (by simp) t
      | invert => cases happly
      | not => cases happly
  | binary op l r =>
      obtain ⟨a, b, -, hb, happly⟩ := eval_binary_ok h
      cases op with
      | add => exact .arithmetic (by simp) l r
      | sub => exact .arithmetic (by simp) l r
      | mul => exact .arithmetic (by simp) l r
      | div => exact .arithmetic (by simp) l r
      | pow =>
          obtain ⟨size, hsize, hsmall⟩ := exponent_of_apply_pow_ok happly
          exact .power hb hsize hsmall l
      -- the other operators are parsed, but not applied to anything
      | floorDiv => cases happly
      | mod => cases happly
      | matMult => cases happly
      | leftShift => cases happly
      | rightShift => cases happly
      | bitOr => cases happly
      | bitAnd => cases happly
  | call c args keywords =>
      obtain ⟨id, f, xs, rfl, rfl, hf, -, -⟩ := eval_call_ok h
      exact .call (by rw [hf]; rfl) args
  | other kind parts => exact absurd h eval_other_ne_ok

/-- Every node of a tree with a value is permitted, unless it is the name of a called function. -/
theorem Within.permitted {u t : Tree} (hwithin : Within u t) (h : t.eval env = .ok x) :
    Permitted env u ∨ CalledIn u t := by
  induction hwithin generalizing x with
  | self => exact .inl (permitted_of_eval h)
  | operand _ ih =>
      obtain ⟨a, ha, -⟩ := eval_unary_ok h
      exact (ih ha).imp_right fun hcalled => hcalled.within (.operand .self)
  | left _ ih =>
      obtain ⟨a, b, ha, -, -⟩ := eval_binary_ok h
      exact (ih ha).imp_right fun hcalled => hcalled.within (.left .self)
  | right _ ih =>
      obtain ⟨a, b, -, hb, -⟩ := eval_binary_ok h
      exact (ih hb).imp_right fun hcalled => hcalled.within (.right .self)
  | @callee c args keywords hcallee _ =>
      -- a callee is not evaluated, but it is a plain name and so has no other node than itself
      obtain ⟨id, f, xs, rfl, rfl, hf, -, -⟩ := eval_call_ok h
      cases hcallee with
      | self => exact .inr ⟨id, args, [], rfl, by rw [hf]; rfl, .self⟩
  | argument mem _ ih =>
      obtain ⟨id, f, xs, -, -, -, hxs, -⟩ := eval_call_ok h
      obtain ⟨a, ha⟩ := eval_ok_of_mem_args hxs mem
      exact (ih ha).imp_right fun hcalled => hcalled.within (.argument mem .self)
  | keyword mem _ ih =>
      obtain ⟨id, f, xs, -, rfl, -, -, -⟩ := eval_call_ok h
      cases mem
  | part mem _ ih => exact absurd h eval_other_ne_ok

/-- A text with a value has a tree, and that tree has a value. -/
theorem parseText?_of_evalText_ok {s : Text} {y : Float} (h : evalText env s = .ok y) :
    ∃ t q, parseText? s = some t ∧ t.eval env = .ok q := by
  rw [evalText, mapError_ok_iff, valueOf] at h
  split at h
  · cases h
  · rename_i t hparse
    rw [Tree.value] at h
    obtain ⟨q, hq, -⟩ := bind_ok_iff.mp h
    exact ⟨t, q, hparse, hq⟩

/-- A text has a value only if every node of its tree is permitted or the name of a called function;
a text whose tree has any other node, at whatever depth, is refused. -/
theorem evalText_whitelisted (env : Environment) (s : Text) :
    (∀ y, evalText env s = .ok y → ∃ t, parseText? s = some t ∧
      ∀ u, Within u t → Permitted env u ∨ CalledIn u t) ∧
    (∀ t u, parseText? s = some t → Within u t → ¬ Permitted env u → ¬ CalledIn u t →
      ∃ e, evalText env s = .error e) := by
  have hnodes : ∀ y, evalText env s = .ok y → ∃ t, parseText? s = some t ∧
      ∀ u, Within u t → Permitted env u ∨ CalledIn u t := by
    intro y h
    obtain ⟨t, q, hparse, hq⟩ := parseText?_of_evalText_ok h
    exact ⟨t, hparse, fun u hu => hu.permitted hq⟩
  refine ⟨hnodes, ?_⟩
  intro t u hparse hu hpermitted hcalled
  cases heval : evalText env s with
  | error e => exact ⟨e, rfl⟩
  | ok y =>
      exfalso
      obtain ⟨t', hparse', hall⟩ := hnodes y heval
      obtain rfl : t = t' := Option.some.inj (hparse.symm.trans hparse')
      rcases hall u hu with h | h
      · exact hpermitted h
      · exact hcalled h

/-- A call with a power in its argument has a value, and all its nodes are permitted; the attribute
in an argument of a call is found and refused. -/
theorem evalText_whitelisted_of_call :
    let env : Environment := [("a", 3.0)]
    (∃ y, evalText env "abs(a-2^64)" = .ok y ∧ ∃ t, parseText? "abs(a-2^64)" = some t ∧
      ∀ u, Within u t → Permitted env u ∨ CalledIn u t) ∧
    ∃ e, evalText env "abs(-a.real)" = .error e := by
  intro env
  constructor
  · have hvalue : (evalText env "abs(a-2^64)").isOk = true := by decide +kernel
    obtain ⟨y, hy⟩ := isOk_iff.mp hvalue
    exact ⟨y, hy, (evalText_whitelisted env _).1 y hy⟩
  · have hconstruct : (parseText? "abs(-a.real)").any hasConstruct = true := by decide +kernel
    obtain ⟨t, hparse, hconstruct⟩ := (Option.any_eq_true _ _).mp hconstruct
    obtain ⟨kind, parts, hwithin⟩ := exists_within_of_hasConstruct hconstruct
    refine (evalText_whitelisted env _).2 t _ hparse hwithin ?_ ?_
    · intro h
      cases h
    · rintro ⟨id, args, keywords, h, -⟩
      cases h

end SignalLab.Expression
