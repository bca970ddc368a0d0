import SignalLab.Proofs.Program.ReadBack
import SignalLab.Proofs.Text.Brackets

/-!
# Cuts — where a range is cut

A range is to be cut at top level only: each of its parts is balanced, and the parts joined again are
the trimmed text, or what stands between a pair of square brackets around it.  The pair is dropped on
the sight of the first and the last character, and these may belong to two pairs.  The parts of a
balanced text are balanced exactly if they do not (`RangeText.cuts_iff`); `[1:2]+[3]` is cut inside
its first pair (`RangeText.cut_inside_pair`).
-/

namespace SignalLab.RangeText

open Text

/-- The parts of a text between its ends, as they are written. -/
def parts (expr : Text) : List Text :=
  splitTopLevel ':' (body expr)

/-- Square brackets at both ends of a text, if there are any, match each other. -/
def EndsMatch (s : Text) : Prop :=
  ∀ inner, s = '[' :: (inner ++ [']']) → Balanced inner

/-- The second text is the first one without a pair of square brackets around it that match each
other. -/
def IsUnwrapped (s inner : Text) : Prop :=
  s = '[' :: (inner ++ [']']) ∧ Balanced inner

section Cuts

variable {expr : Text}

/-- A range is written between square brackets at both ends, or without them. -/
theorem body_cases (expr : Text) :
    expr.trim = '[' :: (body expr ++ [']']) ∨
      body expr = expr.trim ∧ ∀ inner, expr.trim ≠ '[' :: (inner ++ [']']) := by
  rw [body]
  split
  · rename_i hends
    obtain ⟨s, hs⟩ := List.head?_eq_some_iff.mp hends.1
    have hne : s ≠ [] := by
      rintro rfl
      rw [hs] at hends
      cases hends.2
    have hlast : s.getLast hne = ']' := by
      have hends := hends.2
      rw [hs, List.getLast?_cons, List.getLast?_eq_some_getLast hne] at hends
      exact Option.some.inj hends
    left
    rw [hs, List.tail_cons, ← hlast, List.dropLast_concat_getLast]
  · rename_i hends
    refine .inr ⟨rfl, fun inner heq => hends ?_⟩
    rw [heq]
    exact ⟨rfl, by rw [← List.cons_append, List.getLast?_concat]⟩

/-- What stands between square brackets at the ends is balanced if these match each other. -/
theorem balanced_body_iff (hbalanced : Balanced expr) :
    Balanced (body expr) ↔ EndsMatch expr.trim := by
  rcases body_cases expr with hends | ⟨hbody, hends⟩
  · constructor
    · intro h inner heq
      rw [hends] at heq
      rwa [← List.append_cancel_right (List.cons.inj heq).2]
    · intro h
      exact h _ hends
  · rw [hbody]
    exact iff_of_true (balanced_trim_iff.mpr hbalanced) fun inner heq => absurd heq (hends inner)

/-- The text between the ends is the trimmed text, or this without a matching pair, exactly if the
ends match. -/
theorem body_eq_or_isUnwrapped_iff (hbalanced : Balanced expr) :
    body expr = expr.trim ∨ IsUnwrapped expr.trim (body expr) ↔ EndsMatch expr.trim := by
  rw [← balanced_body_iff hbalanced]
  rcases body_cases expr with hends | ⟨hbody, -⟩
  · constructor
    · rintro (heq | hpair)
      · -- a text is longer than what stands between its ends
        have hlength := congrArg List.length (heq.trans hends)
        rw [List.length_cons, List.length_append, List.length_singleton] at hlength
        omega
      · exact hpair.2
    · intro h
      exact .inr ⟨hends, h⟩
  · refine iff_of_true (.inl hbody) ?_
    rw [hbody]
    exact balanced_trim_iff.mpr hbalanced

theorem join_parts (expr : Text) : join [':'] (parts expr) = body expr :=
  join_splitTopLevel ':' _

theorem toList_of_ofText? {r : RangeText} (h : ofText? expr = some r) :
    r.toList = (parts expr).map trim := by
  rw [ofText?] at h
  dsimp only at h
  split at h
  · cases h
  · split at h
    · cases h
    · split at h
      · rename_i hparts
        cases h
        exact hparts.symm
      · rename_i hparts
        cases h
        exact hparts.symm
      · cases h

/-- The range in a balanced text without quotes has the trimmed parts of the text.  They are all
balanced exactly if square brackets at both ends of the text match each other, and exactly then the
parts joined again are the trimmed text, or this without a pair of brackets that match. -/
theorem cuts_iff {r : RangeText} (hquotes : ∀ c ∈ expr, isQuote c = false)
    (hbalanced : Balanced expr) (h : ofText? expr = some r) :
    r.toList = (parts expr).map trim ∧
      ((∀ part ∈ r.toList, Balanced part) ↔ EndsMatch expr.trim) ∧
      (join [':'] (parts expr) = expr.trim ∨ IsUnwrapped expr.trim (join [':'] (parts expr)) ↔
        EndsMatch expr.trim) := by
  have htoList := toList_of_ofText? h
  refine ⟨htoList, ?_, ?_⟩
  · have hcolon : isBracket ':' = false := by decide
    have hbody : ∀ c ∈ body expr, isQuote c = false :=
      fun c hc => hquotes c (Shape.mem_of_mem_body hc)
    rw [← balanced_body_iff hbalanced, balanced_iff_parts hcolon hbody, htoList,
      List.forall_mem_map]
    exact forall₂_congr fun part _ => balanced_trim_iff
  · rw [join_parts]
    exact body_eq_or_isUnwrapped_iff hbalanced

end Cuts

/-- Brackets of three kinds, blanks around them, and a colon that is not at top level. -/
theorem cuts_of_pair :
    let expr : Text := " [f(1:2) : x\x7b3\x7d] "
    (∀ c ∈ expr, isQuote c = false) ∧ Balanced expr ∧
      ofText? expr = some ⟨"f(1:2)", none, "x\x7b3\x7d"⟩ ∧ EndsMatch expr.trim ∧
      ∀ part ∈ ["f(1:2)".toList, "x\x7b3\x7d".toList], Balanced part := by
  intro expr
  have hplain : expr.all (fun c => !isQuote c) = true := by decide
  have hquotes : ∀ c ∈ expr, isQuote c = false :=
    fun c hc => Bool.not_eq_true' _ ▸ List.all_eq_true.mp hplain c hc
  have hbalanced : Balanced expr := by decide
  have hrange : ofText? expr = some ⟨"f(1:2)", none, "x\x7b3\x7d"⟩ := by decide
  have hends : EndsMatch expr.trim := (balanced_body_iff hbalanced).mp (by decide)
  obtain ⟨-, hparts, -⟩ := cuts_iff hquotes hbalanced hrange
  exact ⟨hquotes, hbalanced, hrange, hends, hparts.mpr hends⟩

/-- The brackets at the ends belong to two pairs, and the range is cut inside the first one. -/
theorem cut_inside_pair :
    (∀ c ∈ "[1:2]+[3]".toList, isQuote c = false) ∧ Balanced "[1:2]+[3]" ∧
      ofText? "[1:2]+[3]" = some ⟨"1", none, "2]+[3"⟩ ∧ ¬ Balanced "2]+[3" := by
  have hplain : "[1:2]+[3]".toList.all (fun c => !isQuote c) = true := by decide
  exact ⟨fun c hc => Bool.not_eq_true' _ ▸ List.all_eq_true.mp hplain c hc, by decide, by decide,
    by decide⟩

end SignalLab.RangeText
