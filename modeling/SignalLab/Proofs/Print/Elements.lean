import SignalLab.Proofs.Expression.Numerals
import SignalLab.Proofs.Print.Calls

/-!
# Elements — the elements of a vector that a print call names by a variable

In `v(k)` the index is text: the word `end` in it is replaced by the length of the vector, and what
comes out is evaluated.  The replacement does not look at where words begin and end.  A variable is
looked up as the index exactly if `end` is no part of its name (`indexes_iff`): the name that comes out
of a replacement is shorter than the one the variable has, so that what is evaluated does not depend on
the variable any more (`evalText_word_congr`).
-/

namespace SignalLab

open Text Statement Expression Fallible

namespace Print

/-! ## Replacing `end` -/

/-- Without `end` nothing is replaced. -/
theorem substituteEnd_eq_self {s : Text} (h : includes "end" s = false) (value : Text) :
    substituteEnd value s = s := by
  fun_induction substituteEnd value s with
  | case1 s => cases h
  | case2 c s hne ih =>
      rw [includes, Bool.or_eq_false_iff] at h
      rw [ih h.2]
  | case3 => rfl

/-- A replacement by one character makes no text longer. -/
theorem length_substituteEnd_le (d : Char) (s : Text) :
    (substituteEnd [d] s).length ≤ s.length := by
  fun_induction substituteEnd [d] s with
  | case1 s ih =>
      rw [List.singleton_append, List.length_cons, List.length_cons, List.length_cons,
        List.length_cons]
      omega
  | case2 c s hne ih => exact Nat.succ_le_succ ih
  | case3 => exact Nat.le_refl _

/-- A text gets shorter if there is something in it to be replaced. -/
theorem length_substituteEnd_lt (d : Char) {s : Text} (h : includes "end" s = true) :
    (substituteEnd [d] s).length < s.length := by
  fun_induction substituteEnd [d] s with
  | case1 s =>
      have hle := length_substituteEnd_le d s
      rw [List.singleton_append, List.length_cons, List.length_cons, List.length_cons,
        List.length_cons]
      omega
  | case2 c s hne ih =>
      rw [includes, Bool.or_eq_true] at h
      rcases h with hlead | hrest
      · obtain ⟨t, ht⟩ := List.isPrefixOf_iff_prefix.mp hlead
        cases ht
        exact absurd rfl (hne t rfl)
      · exact Nat.succ_lt_succ (ih hrest)
  | case3 => cases h

/-- A replacement adds only the characters of the value. -/
theorem mem_substituteEnd {value s : Text} {c : Char} (h : c ∈ substituteEnd value s) :
    c ∈ value ∨ c ∈ s := by
  fun_induction substituteEnd value s with
  | case1 s ih =>
      rcases List.mem_append.mp h with h | h
      · exact .inl h
      · exact (ih h).imp_right fun hs => by simp [hs]
  | case2 d s hne ih =>
      rcases List.mem_cons.mp h with rfl | h
      · exact .inr List.mem_cons_self
      · exact (ih h).imp_right (List.mem_cons_of_mem _)
  | case3 => cases h

theorem substituteEnd_ne_nil (d c : Char) (s : Text) : substituteEnd [d] (c :: s) ≠ [] := by
  rw [substituteEnd.eq_def]
  split
  · exact List.cons_ne_nil _ _
  · exact List.cons_ne_nil _ _
  · rename_i heq
    cases heq

/-! ## Words -/

/-- A character of an ASCII name: a letter, an underscore or a digit. -/
theorem isAsciiNameStart_or_isDigit {c : Char} (hc : isWordChar c = true) (hascii : c.toNat < 0x80) :
    isAsciiNameStart c = true ∨ c.isDigit = true := by
  rw [isWordChar, isAlphanumeric, if_pos hascii, Char.isAlphanum, Bool.or_eq_true,
    Bool.or_eq_true] at hc
  rw [isAsciiNameStart, Bool.or_eq_true]
  exact or_assoc.mpr hc

/-- ASCII characters of words continue a name. -/
theorem isNameContinue_of_ascii {c : Char} (hc : isWordChar c = true) (hascii : c.toNat < 0x80) :
    isNameContinue c = true := by
  rw [isNameContinue, if_pos hascii, Bool.or_eq_true]
  exact isAsciiNameStart_or_isDigit hc hascii

/-- A name in ASCII is its own normal form. -/
theorem normalizeName_of_ascii {s : Text} (h : ∀ c ∈ s, c.toNat < 0x80) : normalizeName s = s := by
  rw [normalizeName, if_pos]
  exact List.all_eq_true.mpr fun c hc => decide_eq_true (h c hc)

/-- An ASCII name that is no reserved word is read as itself. -/
theorem wordToken?_of_ascii {k : Text} (hname : IsTarget k) (hascii : ∀ c ∈ k, c.toNat < 0x80)
    (hkeyword : keyword? k = none) : wordToken? k = some (.name k) := by
  refine (wordToken?_eq_name_iff hname).mpr ⟨hkeyword, ?_, normalizeName_of_ascii hascii⟩
  exact List.all_eq_true.mpr fun c hc =>
    isNameContinue_of_ascii (hname.isWordChar c hc) (hascii c hc)

/-- Whether an ASCII word has a value, and which, depends on no other name than the word itself. -/
theorem evalText_word_congr {w : Text} (hne : w ≠ []) (hword : ∀ c ∈ w, isWordChar c = true)
    (hascii : ∀ c ∈ w, c.toNat < 0x80) {env env' : Environment}
    (henv : Keyed.find? w env = Keyed.find? w env') (x : Float) :
    evalText env w = .ok x ↔ evalText env' w = .ok x := by
  obtain ⟨c, word, rfl⟩ := List.exists_cons_of_ne_nil hne
  rcases isAsciiNameStart_or_isDigit (hword c List.mem_cons_self) (hascii c List.mem_cons_self)
    with hc | hc
  · -- the word is a name, a reserved word or no token
    have hname : IsTarget (c :: word) :=
      takeIdentifier?_self hc fun d hd => hword d (List.mem_cons_of_mem _ hd)
    rw [evalText_target_iff hname, evalText_target_iff hname]
    refine exists_congr fun id => and_congr_right fun hid => ?_
    obtain ⟨-, -, hspelling⟩ := (wordToken?_eq_name_iff hname).mp hid
    rw [normalizeName_of_ascii hascii] at hspelling
    rw [← hspelling, nameValue, nameValue, henv]
  · -- the word is a number or no expression
    have hlike : ∀ d ∈ c :: word, isNameLike d = true :=
      fun d hd => isNameLike_of_isWordChar (hword d hd)
    have hvalue : ∀ env, valueOf env (c :: word) = valueOf [] (c :: word) := by
      intro env
      rw [valueOf, valueOf, parseText?_of_isWordChar hword]
      cases hparse : parse? (c :: word) with
      | none => rfl
      | some t =>
          obtain ⟨l, rfl⟩ := parse?_digit hc hlike hparse
          show (Tree.literal l).value env = (Tree.literal l).value []
          rw [Tree.value, Tree.value, Tree.eval, Tree.eval]
    rw [evalText, evalText, hvalue env, hvalue env']

/-! ## Elements -/

/-- The argument that selects an element by an index. -/
def elementText (v index : Text) : Text :=
  v ++ '(' :: (index ++ [')'])

/-- Whether a name is bound to a real vector whose elements can be selected. -/
structure IsVector (store : Store) (v : Text) (xs : List Float) : Prop where
  target : IsTarget v
  not_length : v ≠ "length"
  not_numel : v ≠ "numel"
  bound : store.get? v = some (.realVector xs)

/-- Whether an argument is read as the element of a vector at a position, from one: it stands for
the element if there is one, and otherwise it is rejected and the calls it is in print nothing. -/
structure StandsFor (store : Store) (arg : Text) (xs : List Float) (i : Int) : Prop where
  inside : 1 ≤ i → i ≤ xs.length →
    ∃ x a, xs[i.toNat - 1]? = some x ∧ Shows x a ∧ argument? store arg = some a
  outside : (i < 1 ∨ (xs.length : Int) < i) → Rejected store arg ∧
    ∀ (s : Settings) (draw : Nat → Float) (st : State) (text format : Text) (args : List Text),
      st.store = store → Prints text → WellFormed text format args → arg ∈ args →
        run s draw st text = (st, none)

/-- Whether a variable can be an index: whatever integer it holds, the argument is read as the element
at this position. -/
def Indexes (k : Text) : Prop :=
  ∀ (store : Store) (v : Text) (xs : List Float) (x : Float) (i : Int), IsVector store v xs →
    store.get? k = some (.scalar x) → Represents x i → StandsFor store (elementText v k) xs i

variable {store : Store} {v index : Text} {xs : List Float}

/-- An element is selected by a word in parentheses. -/
theorem selects_elementText (hv : IsTarget v) (hne : index ≠ [])
    (hindex : ∀ c ∈ index, isWordChar c = true) : Selects (elementText v index) v index := by
  have htrim : trim index = index :=
    trim_of_no_blank fun c hc => isBlank_of_isWordChar (hindex c hc)
  have hline : '\n' ∉ index := fun h => by cases hindex _ h
  exact ⟨[], index, rfl, hv, htrim.symm, hne, hline, rfl⟩

/-- Only two names count elements. -/
theorem not_counts_elementText (hv : IsTarget v) (hlength : v ≠ "length") (hnumel : v ≠ "numel")
    (name : Text) : ¬ Counts (elementText v index) name := by
  rintro ⟨word, gap, left, right, hword, hgap, -, -, -, harg⟩
  have hfront : takeIdentifier? (elementText v index) = some (v, '(' :: (index ++ [')'])) :=
    takeIdentifier?_eq_some_iff.mpr ⟨hv, rfl, fun c hc => by cases hc; decide⟩
  have htarget : IsTarget word.toList := by
    rcases hword with rfl | rfl <;> rfl
  have hother : takeIdentifier? (elementText v index) =
      some (word.toList, gap ++ '(' :: (left ++ (name ++ (right ++ [')'])))) :=
    takeIdentifier?_eq_some_iff.mpr ⟨htarget, harg, isWordChar_head?_blanks hgap (by decide)⟩
  obtain ⟨rfl, -⟩ := Prod.mk.inj (Option.some.inj (hfront.symm.trans hother))
  rcases hword with rfl | rfl
  · exact hlength rfl
  · exact hnumel rfl

/-- An element of a vector is read as one. -/
theorem IsVector.isElement (h : IsVector store v xs) (hne : index ≠ [])
    (hindex : ∀ c ∈ index, isWordChar c = true) :
    IsElement store (elementText v index) (.realVector xs) xs.length index where
  not_count := not_counts_elementText h.target h.not_length h.not_numel
  selects := ⟨v, selects_elementText h.target hne hindex, h.bound⟩
  length := rfl

/-- An element whose position is known is read as the element at this position. -/
theorem StandsFor.of_position {arg : Text} {i : Int}
    (h : IsElement store arg (.realVector xs) xs.length index)
    (hposition : IsPosition store xs.length index i) : StandsFor store arg xs i where
  inside := by
    intro hpositive hle
    have hlt : i.toNat - 1 < xs.length := by omega
    have hx := List.getElem?_eq_getElem hlt
    have hshows : Shows xs[i.toNat - 1] (.ofReal xs[i.toNat - 1]) := shows_iff.mpr rfl
    refine ⟨_, _, hx, hshows, ?_⟩
    exact argument?_eq_some_iff.mpr (.element h hposition hpositive hx hshows)
  outside := by
    intro houtside
    have hrejected : Rejected store arg := .outOfBounds h hposition houtside
    refine ⟨hrejected, ?_⟩
    rintro s draw st text format args rfl hprints hcall hmem
    exact run_of_skipped s draw hprints (.argument hcall hmem hrejected)

/-- The index `end` is the last position. -/
theorem IsVector.standsFor_end (h : IsVector store v xs) :
    StandsFor store (elementText v "end") xs xs.length :=
  .of_position (h.isElement (by decide) (List.all_eq_true.mp (by decide))) (.last rfl)

/-- A variable whose name has no `end` in it is evaluated as it is written. -/
theorem indexes_of_not_includes {k : Text} (hname : IsTarget k)
    (hascii : ∀ c ∈ k, c.toNat < 0x80) (hkeyword : keyword? k = none)
    (h : includes "end" k = false) : Indexes k := by
  intro store v xs x i hvector hbound hx
  have hend : k ≠ "end" := by
    rintro rfl
    cases h
  have hfind : Keyed.find? k store.scalars = some x := Keyed.find?_collect_of_some hbound rfl
  have hvalue : evalText store.scalars k = .ok x := by
    refine (evalText_target_iff hname _ x).mpr ⟨k, wordToken?_of_ascii hname hascii hkeyword, ?_⟩
    rw [nameValue, hfind]
  refine .of_position (hvector.isElement hname.ne_nil hname.isWordChar) ?_
  rw [← substituteEnd_eq_self h (Text.ofNat xs.length)] at hvalue
  exact .value hend hvalue hx (Double.isTruncated_intCast i)

/-! ## Names with `end` in them -/

/-- A vector of two elements, and a scalar. -/
def twoAnd (k : Text) (x : Float) : Store :=
  ⟨[("v", .realVector [0.0, 1.0]), (k, .scalar x)]⟩

/-- The position does not depend on a variable whose name has `end` in it. -/
theorem isPosition_twoAnd {k : Text} (hname : IsTarget k) (hascii : ∀ c ∈ k, c.toNat < 0x80)
    (hend : k ≠ "end") (h : includes "end" k = true) {x : Float} {i : Int}
    (hposition : IsPosition (twoAnd k x) 2 k i) (y : Float) : IsPosition (twoAnd k y) 2 k i := by
  have hdigits : Text.ofNat 2 = ['2'] := by rfl
  obtain ⟨c, others, hk⟩ := List.exists_cons_of_ne_nil hname.ne_nil
  have hne : substituteEnd ['2'] k ≠ [] := hk ▸ substituteEnd_ne_nil '2' c others
  have hmem : ∀ d ∈ substituteEnd ['2'] k, isWordChar d = true ∧ d.toNat < 0x80 := by
    intro d hd
    rcases mem_substituteEnd hd with hd | hd
    · obtain rfl := List.mem_singleton.mp hd
      decide
    · exact ⟨hname.isWordChar d hd, hascii d hd⟩
  -- what is evaluated is shorter than the name of the variable
  have hother : k ≠ substituteEnd ['2'] k := by
    intro heq
    have hlt := length_substituteEnd_lt '2' h
    rw [← heq] at hlt
    omega
  have hfind : ∀ x, Keyed.find? (substituteEnd ['2'] k) (twoAnd k x).scalars = none :=
    fun x => if_neg hother
  have hvalue := evalText_word_congr hne (fun d hd => (hmem d hd).1) (fun d hd => (hmem d hd).2)
    ((hfind x).trans (hfind y).symm)
  cases hposition with
  | last word => exact absurd word hend
  | value other value finite truncated =>
      rw [hdigits] at value
      refine .value hend ?_ finite truncated
      rw [hdigits]
      exact (hvalue _).mp value

theorem represents_one : Represents 1.0 1 := by
  have hone : (1.0 : Float) = Double.ofNat 1 := by rfl
  rw [Represents, hone, Double.value?_ofNat (by decide), Nat.cast_one, Int.cast_one]

theorem represents_two : Represents 2.0 2 := by
  have htwo : (2.0 : Float) = Double.ofNat 2 := by rfl
  rw [Represents, htwo, Double.value?_ofNat (by decide), Nat.cast_ofNat, Int.cast_ofNat]

/-- Zero and one are not printed alike. -/
theorem not_shows_zero_and_one (a : Argument) : ¬ (Shows 0.0 a ∧ Shows 1.0 a) := by
  have hrepresents : Represents 0.0 0 := by rw [Represents, Double.value?_zero, Int.cast_zero]
  rintro ⟨hzero, hone⟩
  cases a with
  | integer n =>
      have hn : (0 : ℚ) = n := Option.some.inj (Double.value?_zero.symm.trans hzero)
      have hn' : ((1 : ℤ) : ℚ) = n := Option.some.inj (represents_one.symm.trans hone)
      rw [← hn] at hn'
      norm_num at hn'
  | real y => exact hzero.1 0 hrepresents
  | text s => exact hzero

/-- A variable whose name has `end` in it is not looked up. -/
theorem not_indexes_of_includes {k : Text} (hname : IsTarget k)
    (hascii : ∀ c ∈ k, c.toNat < 0x80) (hend : k ≠ "end") (h : includes "end" k = true) :
    ¬ Indexes k := by
  intro hindexes
  have hk : "v".toList ≠ k := by
    rintro rfl
    cases h
  have hvector : ∀ x, IsVector (twoAnd k x) "v" [0.0, 1.0] :=
    fun x => ⟨by rfl, by decide, by decide, rfl⟩
  have hbound : ∀ x, (twoAnd k x).get? k = some (.scalar x) := by
    intro x
    show (if "v".toList = k then _ else if k = k then _ else _) = _
    rw [if_neg hk, if_pos rfl]
  have hread : ∀ x a, argument? (twoAnd k x) (elementText "v" k) = some a ↔
      ∃ i, IsPosition (twoAnd k x) 2 k i ∧ element (.realVector [0.0, 1.0]) 2 i = .ok a := by
    intro x a
    rw [argument?, toOption_eq_some_iff,
      argument_of_isElement ((hvector x).isElement hname.ne_nil hname.isWordChar), bind_ok_iff]
    exact exists_congr fun i => and_congr_left' position_eq_ok_iff
  -- the variable holds one and then two, and both times the same element is read
  obtain ⟨x, a, hx, hxa, ha⟩ := (hindexes _ _ _ 1.0 1 (hvector 1.0) (hbound 1.0) represents_one).inside
    (by decide) (by decide)
  obtain ⟨y, b, hy, hyb, hb⟩ := (hindexes _ _ _ 2.0 2 (hvector 2.0) (hbound 2.0) represents_two).inside
    (by decide) (by decide)
  obtain ⟨i, hi, helement⟩ := (hread 1.0 a).mp ha
  have ha : argument? (twoAnd k 2.0) (elementText "v" k) = some a :=
    (hread 2.0 a).mpr ⟨i, isPosition_twoAnd hname hascii hend h hi 2.0, helement⟩
  cases ha.symm.trans hb
  cases hx
  cases hy
  exact not_shows_zero_and_one a ⟨hxa, hyb⟩

/-- A variable can be an index exactly if `end` is no part of its name; and `end` alone is the last
position. -/
theorem indexes_iff {k : Text} (hname : IsTarget k) (hascii : ∀ c ∈ k, c.toNat < 0x80)
    (hkeyword : keyword? k = none) (hend : k ≠ "end") :
    (Indexes k ↔ includes "end" k = false) ∧
    ∀ (store : Store) (v : Text) (xs : List Float), IsVector store v xs →
      StandsFor store (elementText v "end") xs xs.length := by
  refine ⟨⟨fun h => ?_, indexes_of_not_includes hname hascii hkeyword⟩,
    fun store v xs => IsVector.standsFor_end⟩
  cases hincludes : includes "end" k with
  | false => rfl
  | true => exact absurd h (not_indexes_of_includes hname hascii hend hincludes)

/-- The variable `index` can be an index. -/
theorem indexes_of_index :
    IsTarget "index" ∧ keyword? "index" = none ∧ includes "end" "index" = false ∧
    Indexes "index" := by
  have hname : IsTarget "index" := by rfl
  have hkeyword : keyword? "index" = none := by decide +kernel
  have hascii : "index".toList.all (fun c => c.toNat < 0x80) = true := by decide
  refine ⟨hname, hkeyword, by decide, ?_⟩
  exact (indexes_iff hname (fun c hc => of_decide_eq_true (List.all_eq_true.mp hascii c hc)) hkeyword
    (by decide)).1.mpr (by decide)

/-- A variable `trend` that holds one is not looked up: the index becomes `tr3` in a vector of three
elements, which nothing is bound to. -/
theorem element_of_trend_rejected :
    let store : Store := ⟨[("t", .realVector [0.0, 1.0, 2.0]), ("trend", .scalar 1.0)]⟩
    IsVector store "t" [0.0, 1.0, 2.0] ∧ store.get? "trend" = some (.scalar 1.0) ∧
    Represents 1.0 1 ∧ Rejected store (elementText "t" "trend") ∧ ¬ Indexes "trend" := by
  intro store
  have hvector : IsVector store "t" [0.0, 1.0, 2.0] := ⟨by rfl, by decide, by decide, by rfl⟩
  have hbound : store.get? "trend" = some (.scalar 1.0) := by rfl
  have hnone : (position store 3 "trend").toOption = none := by decide +kernel
  have hrejected : Rejected store (elementText "t" "trend") := by
    refine .noPosition (hvector.isElement (by decide) (List.all_eq_true.mp (by decide))) fun i hi => ?_
    cases hnone.symm.trans (toOption_eq_some_iff.mpr (position_eq_ok_iff.mpr hi))
  refine ⟨hvector, hbound, represents_one, hrejected, fun h => ?_⟩
  obtain ⟨x, a, -, -, ha⟩ := (h store _ _ _ _ hvector hbound represents_one).inside (by decide) (by decide)
  cases ha.symm.trans (argument?_eq_none_iff.mpr hrejected)

end Print

end SignalLab
