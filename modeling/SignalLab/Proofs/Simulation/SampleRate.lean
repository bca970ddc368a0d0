import SignalLab.Proofs.Text.FirstMatch
import SignalLab.Simulation.Parameter

/-!
# The sample rate — which assignment it is read from

The rate of a program is to be the number of the first `fs = digits` in which `fs` is a whole name,
if that is positive, and the default otherwise (`Parameter.IsRate`).  The reader takes the first one
anywhere, so it is right exactly for the programs in which that one is not the end of a longer name,
or happens to give the same answer (`Parameter.isRate_sampleRate_iff`): `bufs = 8` is taken for a
rate of eight (`Parameter.sampleRate_of_longer_name`).
-/

namespace SignalLab.Parameter

open Text

/-! ## Assignments -/

/-- A text that begins with an equals sign, blanks around it aside, and digits. -/
inductive Assigns : Text → List Nat → Prop
  | intro {blanks blanks' number written rest : Text} {digits : List Nat}
      (hblanks : ∀ c ∈ blanks, isBlank c = true) (hblanks' : ∀ c ∈ blanks', isBlank c = true)
      (hdigits : IsDigits number written rest digits) (hne : digits ≠ []) :
      Assigns (blanks ++ '=' :: (blanks' ++ number)) digits

/-- A text that begins with `fs = digits`. -/
def WritesRate (s : Text) (digits : List Nat) : Prop :=
  ∃ rest, s = "fs".toList ++ rest ∧ Assigns rest digits

/-- A number is no blank. -/
theorem trimLeft_of_isDigits {number written rest : Text} {digits : List Nat}
    (h : IsDigits number written rest digits) (hne : digits ≠ []) : trimLeft number = number := by
  obtain ⟨rfl, hvalues, -⟩ := h
  cases written with
  | nil => exact absurd (List.map_eq_nil_iff.mp hvalues.symm) hne
  | cons c written =>
      obtain ⟨d, digits, rfl, hd, -⟩ := List.map_eq_cons_iff.mp hvalues.symm
      refine List.dropWhile_cons_of_neg fun hblank => ?_
      have hdigit := isDecimalDigit_of_isBlank hblank
      rw [isDecimalDigit, ← hd] at hdigit
      cases hdigit

/-- An equals sign and digits, with blanks in between. -/
theorem assignedDigits?_eq_some_iff {s : Text} {digits : List Nat} :
    assignedDigits? s = some digits ↔ Assigns s digits := by
  have hsign : isBlank '=' = false := by decide
  constructor
  · intro h
    obtain ⟨rest, hrest, hread⟩ := Option.bind_eq_some_iff.mp h
    obtain ⟨blanks, hblanks, rfl⟩ := (afterBlanks?_eq_some_iff hsign).mp hrest
    obtain ⟨written, hdigits⟩ := takeDigits_isDigits (trimLeft rest)
    split at hread
    · cases hread
    · rename_i digits' tail hne htake
      cases hread
      rw [htake] at hdigits
      have hrest : rest = rest.takeWhile isBlank ++ trimLeft rest :=
        List.takeWhile_append_dropWhile.symm
      rw [hrest]
      exact .intro hblanks (List.all_eq_true.mp List.all_takeWhile) hdigits
        hne
  · rintro ⟨hblanks, hblanks', hdigits, hne⟩
    refine Option.bind_eq_some_iff.mpr
      ⟨_, (afterBlanks?_eq_some_iff hsign).mpr ⟨_, hblanks, rfl⟩, ?_⟩
    have htrim := trimLeft_of_isDigits hdigits hne
    rw [trimLeft] at htrim ⊢
    rw [List.dropWhile_append_of_pos hblanks', htrim, hdigits.takeDigits_eq]
    cases digits with
    | nil => exact absurd rfl hne
    | cons d digits => rfl

/-- The two letters, and what assigns digits. -/
theorem rateDigits?_eq_some_iff {s : Text} {digits : List Nat} :
    rateDigits? s = some digits ↔ WritesRate s digits := by
  constructor
  · intro h
    obtain ⟨rest, hrest, h⟩ := Option.bind_eq_some_iff.mp h
    exact ⟨rest, after?_eq_some_iff.mp hrest, assignedDigits?_eq_some_iff.mp h⟩
  · rintro ⟨rest, hsplit, h⟩
    exact Option.bind_eq_some_iff.mpr
      ⟨rest, after?_eq_some_iff.mpr hsplit, assignedDigits?_eq_some_iff.mpr h⟩

/-! ## First assignments -/

/-- Behind `front` stands `fs = digits`, the first one among the places that are admitted by the
character before them. -/
structure IsFirstAssignment (admits : Option Char → Bool) (code front rest : Text)
    (digits : List Nat) : Prop where
  split : code = front ++ rest
  admitted : admits front.getLast? = true
  writes : WritesRate rest digits
  none_before : ∀ front' rest', code = front' ++ rest' → front'.length < front.length →
    admits front'.getLast? = true → ∀ digits', ¬ WritesRate rest' digits'

/-- The reader of rates at the places that are admitted. -/
def rateAt? (admits : Option Char → Bool) (before : Option Char) (rest : Text) :
    Option (List Nat) :=
  if admits before then rateDigits? rest else none

section Assignments

variable {admits : Option Char → Bool} {code front rest : Text} {digits : List Nat}
  {default : Int}

/-- A rate is written where the character in front admits it. -/
theorem rateAt?_eq_some_iff {before : Option Char} :
    rateAt? admits before rest = some digits ↔ admits before = true ∧ WritesRate rest digits := by
  rw [rateAt?, ← rateDigits?_eq_some_iff]
  split
  · rename_i hadmits
    exact ⟨fun h => ⟨hadmits, h⟩, And.right⟩
  · rename_i hadmits
    exact ⟨nofun, fun h => absurd h.1 hadmits⟩

/-- The first assignment is the first match of the search. -/
theorem isFirstAssignment_iff :
    IsFirstAssignment admits code front rest digits ↔
      IsFirstMatch (rateAt? admits) none code front rest digits := by
  constructor
  · rintro ⟨hsplit, hadmitted, hwrites, hnone⟩
    refine ⟨hsplit, ?_, fun front' rest' hsplit' hlt => ?_⟩
    · rw [Option.or_none]
      exact rateAt?_eq_some_iff.mpr ⟨hadmitted, hwrites⟩
    · rw [Option.or_none, Option.eq_none_iff_forall_ne_some]
      intro digits' h
      obtain ⟨hadmitted', hwrites'⟩ := rateAt?_eq_some_iff.mp h
      exact hnone front' rest' hsplit' hlt hadmitted' digits' hwrites'
  · rintro ⟨hsplit, hread, hnone⟩
    rw [Option.or_none] at hread
    obtain ⟨hadmitted, hwrites⟩ := rateAt?_eq_some_iff.mp hread
    refine ⟨hsplit, hadmitted, hwrites, fun front' rest' hsplit' hlt hadmitted' digits' h => ?_⟩
    have hnone' := hnone front' rest' hsplit' hlt
    rw [Option.or_none, rateAt?_eq_some_iff.mpr ⟨hadmitted', h⟩] at hnone'
    cases hnone'

/-- There is one first assignment at most. -/
theorem IsFirstAssignment.unique {front' rest' : Text} {digits' : List Nat}
    (h : IsFirstAssignment admits code front rest digits)
    (h' : IsFirstAssignment admits code front' rest' digits') : front = front' ∧ digits = digits' :=
  (isFirstAssignment_iff.mp h).unique (isFirstAssignment_iff.mp h')

/-! ## The rate -/

/-- The rate that digits stand for: their number, or the default for zero. -/
def rateOf (default : Int) (digits : List Nat) : Except SimulationFault Int := do
  let rate ← number digits
  .ok (if rate ≤ 0 then default else rate)

/-- What the rate of a program is to be: it is read from the first `fs = digits` at which a word
begins. -/
inductive IsRate (code : Text) (default : Int) : Except SimulationFault Int → Prop
  | missing (h : ∀ front rest digits, ¬ IsFirstAssignment isBoundary code front rest digits) :
      IsRate code default (.ok default)
  | positive {front rest : Text} {digits : List Nat} {rate : Int}
      (h : IsFirstAssignment isBoundary code front rest digits) (hrate : number digits = .ok rate)
      (hpos : 0 < rate) : IsRate code default (.ok rate)
  | zero {front rest : Text} {digits : List Nat}
      (h : IsFirstAssignment isBoundary code front rest digits) (hrate : number digits = .ok 0) :
      IsRate code default (.ok default)
  | tooLong {front rest : Text} {digits : List Nat} {fault : SimulationFault}
      (h : IsFirstAssignment isBoundary code front rest digits)
      (hfault : number digits = .error fault) : IsRate code default (.error fault)

/-- Digits say no negative number. -/
theorem number_nonneg {digits : List Nat} {rate : Int} (h : number digits = .ok rate) :
    0 ≤ rate := by
  rw [number, integerOfDigits] at h
  split at h
  · cases h
  · cases h
    exact Int.natCast_nonneg _

/-- The rate of the first assignment is the one the text gives. -/
theorem isRate_rateOf (h : IsFirstAssignment isBoundary code front rest digits) :
    IsRate code default (rateOf default digits) := by
  rw [rateOf]
  cases hnumber : number digits with
  | error fault => exact .tooLong h hnumber
  | ok rate =>
      have hnonneg := number_nonneg hnumber
      show IsRate code default (.ok (if rate ≤ 0 then default else rate))
      split
      · obtain rfl : rate = 0 := by omega
        exact .zero h hnumber
      · exact .positive h hnumber (by omega)

/-- The rate is that of the first match, or the standard one. -/
theorem sampleRate_eq (code : Text) (default : Int) :
    sampleRate code default =
      match search (rateAt? fun _ => true) none code with
      | none => .ok default
      | some digits => rateOf default digits := by
  rfl

/-- The rate that is read is the one to be read exactly if the first `fs = digits` anywhere is not
the end of a longer name, or stands for the same rate. -/
theorem isRate_sampleRate_iff (code : Text) (default : Int) :
    IsRate code default (sampleRate code default) ↔
      ∀ front rest digits, IsFirstAssignment (fun _ => true) code front rest digits →
        isBoundary front.getLast? = false → IsRate code default (rateOf default digits) := by
  rw [sampleRate_eq]
  cases hsearch : search (rateAt? fun _ => true) none code with
  | none =>
      -- nothing is written anywhere, hence nothing at the beginning of a word
      have hnone : ∀ front rest, code = front ++ rest → ∀ digits, ¬ WritesRate rest digits := by
        intro front rest hsplit digits hwrites
        have hread := search_eq_none_iff.mp hsearch front rest hsplit
        rw [rateAt?_eq_some_iff.mpr ⟨rfl, hwrites⟩] at hread
        cases hread
      have hmissing : IsRate code default (.ok default) :=
        .missing fun front rest digits h => hnone front rest h.split digits h.writes
      exact iff_of_true hmissing fun front rest digits h =>
        absurd h.writes (hnone front rest h.split digits)
  | some digits =>
      obtain ⟨front, rest, hmatch⟩ := search_eq_some_iff.mp hsearch
      have hfirst := isFirstAssignment_iff.mpr hmatch
      constructor
      · intro hrate front' rest' digits' hfirst' hembedded
        obtain ⟨rfl, rfl⟩ := hfirst.unique hfirst'
        exact hrate
      · intro h
        cases hboundary : isBoundary front.getLast? with
        | false => exact h front rest digits hfirst hboundary
        | true =>
            refine isRate_rateOf ⟨hfirst.split, hboundary, hfirst.writes, ?_⟩
            exact fun front' rest' hsplit hlt _ => hfirst.none_before front' rest' hsplit hlt rfl

/-- A program in which no `fs = digits` begins a word is to have the default rate. -/
theorem IsRate.eq_default {answer : Except SimulationFault Int} (h : IsRate code default answer)
    (hnone : search (rateAt? isBoundary) none code = none) : answer = .ok default := by
  have hmissing : ∀ front rest digits, ¬ IsFirstAssignment isBoundary code front rest digits := by
    intro front rest digits hfirst
    rw [search_eq_some_iff.mpr ⟨front, rest, isFirstAssignment_iff.mp hfirst⟩] at hnone
    cases hnone
  cases h with
  | missing _ => rfl
  | positive hfirst _ _ => exact absurd hfirst (hmissing _ _ _)
  | zero hfirst _ => exact absurd hfirst (hmissing _ _ _)
  | tooLong hfirst _ => exact absurd hfirst (hmissing _ _ _)

end Assignments

/-- The end of a longer name is taken for the sample rate, in a program without one. -/
theorem sampleRate_of_longer_name : sampleRate "bufs = 8" 1000 = .ok 8 ∧
    ¬ IsRate "bufs = 8" 1000 (sampleRate "bufs = 8" 1000) := by
  have hrate : sampleRate "bufs = 8" 1000 = .ok 8 := by rfl
  have hnone : search (rateAt? isBoundary) none "bufs = 8".toList = none := by rfl
  refine ⟨hrate, fun h => ?_⟩
  have hdefault := h.eq_default hnone
  rw [hrate] at hdefault
  cases hdefault

end SignalLab.Parameter
