import Mathlib.Data.List.Infix
import SignalLab.Program.Run
import SignalLab.Proofs.Print.Errors

/-!
# Transcripts — what statements print

Printing is the only way a transcript changes, and it only appends.  `printed` reads off the lines a
statement has to print, the limit on the output aside, and `emitAll` prints as many of them as the
limit admits: either all of them, or those of a proper front, after which the output limit is
breached (`emitAll_breach`).  From this, a statement extends the transcript it begins with, and a
larger limit on the output prints the same and perhaps more.
-/

namespace SignalLab

/-- The state with lines more in its transcript. -/
def State.withLines (st : State) (lines : List Text) : State :=
  { st with transcript := st.transcript ++ lines }

theorem State.withLines_nil (st : State) : st.withLines [] = st := by
  simp [State.withLines]

theorem State.withLines_append (st : State) (xs ys : List Text) :
    st.withLines (xs ++ ys) = (st.withLines xs).withLines ys := by
  simp [State.withLines]

namespace Statement

variable {s s' : Settings} {st st' : State} {lines : List Text}

/-! ## Sizes -/

theorem transcriptSize_append (xs ys : List Text) :
    transcriptSize (xs ++ ys) = transcriptSize xs + transcriptSize ys := by
  induction xs with
  | nil => simp [transcriptSize]
  | cons x xs ih =>
      rw [List.cons_append, transcriptSize, transcriptSize, ih]
      omega

/-- A line is printed exactly if the transcript stays within the limit with it. -/
theorem emit_eq_ok_iff {transcript transcript' : List Text} {line : Text} :
    emit s transcript line = .ok transcript' ↔
      (transcriptSize (transcript ++ [line]) : Int) ≤ s.maxOutput ∧
        transcript' = transcript ++ [line] := by
  have hsize : transcriptSize (transcript ++ [line]) = transcriptSize transcript + line.length := by
    rw [transcriptSize_append]
    simp [transcriptSize]
  rw [emit, hsize]
  by_cases h : s.maxOutput < (transcriptSize transcript + line.length : Nat)
  · rw [if_pos h]
    constructor
    · intro heq
      cases heq
    · rintro ⟨hle, -⟩
      omega
  · rw [if_neg h]
    constructor
    · intro heq
      cases heq
      exact ⟨by omega, rfl⟩
    · rintro ⟨-, rfl⟩
      rfl

theorem emit_eq_error {transcript : List Text} {line : Text} {b : Breach}
    (h : emit s transcript line = .error b) : b = .output := by
  rw [emit] at h
  split at h
  · cases h
    rfl
  · cases h

/-! ## Several lines -/

/-- Printing one line more. -/
theorem emitAll_cons (s : Settings) (st : State) (line : Text) (lines : List Text) :
    emitAll s st (line :: lines) =
      if (transcriptSize (st.transcript ++ [line]) : Int) ≤ s.maxOutput then
        emitAll s (st.withLines [line]) lines
      else (st, some (.breach .output)) := by
  rw [emitAll]
  cases h : emit s st.transcript line with
  | ok transcript =>
      obtain ⟨hle, rfl⟩ := emit_eq_ok_iff.mp h
      rw [if_pos hle]
      rfl
  | error b =>
      have hnot : ¬ (transcriptSize (st.transcript ++ [line]) : Int) ≤ s.maxOutput := by
        intro hle
        rw [emit_eq_ok_iff.mpr ⟨hle, rfl⟩] at h
        cases h
      rw [if_neg hnot, emit_eq_error h]

/-- Printing in two goes. -/
theorem emitAll_append (s : Settings) (st : State) (xs ys : List Text) :
    emitAll s st (xs ++ ys) =
      match emitAll s st xs with
      | (st', none) => emitAll s st' ys
      | (st', some failure) => (st', some failure) := by
  induction xs generalizing st with
  | nil => rfl
  | cons x xs ih =>
      rw [List.cons_append, emitAll_cons, emitAll_cons]
      by_cases h : (transcriptSize (st.transcript ++ [x]) : Int) ≤ s.maxOutput
      · rw [if_pos h, if_pos h]
        exact ih _
      · rw [if_neg h, if_neg h]

/-- Lines that are printed without a breach are all printed. -/
theorem emitAll_ok (h : emitAll s st lines = (st', none)) : st' = st.withLines lines := by
  induction lines generalizing st with
  | nil =>
      cases h
      exact (State.withLines_nil _).symm
  | cons line lines ih =>
      rw [emitAll_cons] at h
      split at h
      · rw [ih h, ← State.withLines_append]
        rfl
      · cases h

/-- Lines that leave the transcript within the limit are all printed. -/
theorem emitAll_of_fits
    (h : (transcriptSize (st.transcript ++ lines) : Int) ≤ s.maxOutput) :
    emitAll s st lines = (st.withLines lines, none) := by
  induction lines generalizing st with
  | nil => rw [emitAll, State.withLines_nil]
  | cons line lines ih =>
      have hrest : (transcriptSize ((st.withLines [line]).transcript ++ lines) : Int) ≤
          s.maxOutput := by
        show (transcriptSize ((st.transcript ++ [line]) ++ lines) : Int) ≤ s.maxOutput
        rwa [List.append_assoc, List.singleton_append]
      have hline : (transcriptSize (st.transcript ++ [line]) : Int) ≤ s.maxOutput := by
        have hsplit := transcriptSize_append (st.transcript ++ [line]) lines
        rw [List.append_assoc, List.singleton_append] at hsplit
        omega
      rw [emitAll_cons, if_pos hline, ih hrest, ← State.withLines_append]
      rfl

/-- Lines that are not all printed: the front of them is, and the output limit is breached at the
line behind it. -/
theorem emitAll_breach {failure : Failure} (h : emitAll s st lines = (st', some failure)) :
    failure = .breach .output ∧
      ∃ front line rest, lines = front ++ line :: rest ∧ emitAll s st front = (st', none) := by
  induction lines generalizing st with
  | nil => cases h
  | cons line lines ih =>
      rw [emitAll_cons] at h
      split at h
      · -- the line is printed and joins the front of what is printed behind it
        rename_i hle
        obtain ⟨hfailure, front, next, rest, rfl, hfront⟩ := ih h
        refine ⟨hfailure, line :: front, next, rest, rfl, ?_⟩
        rw [emitAll_cons, if_pos hle]
        exact hfront
      · cases h
        exact ⟨rfl, [], line, lines, rfl, rfl⟩

theorem emitAll_eq_withLines (s : Settings) (st : State) (lines : List Text) :
    ∃ front, front <+: lines ∧ (emitAll s st lines).1 = st.withLines front := by
  rcases h : emitAll s st lines with ⟨st', failure | failure⟩
  · exact ⟨lines, List.prefix_rfl, emitAll_ok h⟩
  · obtain ⟨-, front, line, rest, rfl, hfront⟩ := emitAll_breach h
    exact ⟨front, List.prefix_append _ _, emitAll_ok hfront⟩

theorem transcript_prefix_emitAll (s : Settings) (st : State) (lines : List Text) :
    st.transcript <+: (emitAll s st lines).1.transcript := by
  obtain ⟨front, -, h⟩ := emitAll_eq_withLines s st lines
  rw [h]
  exact List.prefix_append _ _

/-- Printing keeps a transcript within the limit, also where it is cut off. -/
theorem size_emitAll_le (hsize : (transcriptSize st.transcript : Int) ≤ s.maxOutput)
    (lines : List Text) :
    (transcriptSize (emitAll s st lines).1.transcript : Int) ≤ s.maxOutput := by
  induction lines generalizing st with
  | nil => exact hsize
  | cons line lines ih =>
      rw [emitAll_cons]
      split
      · rename_i hle
        exact ih hle
      · exact hsize

/-! ## Larger limits -/

/-- What is printed without a breach is printed under a larger limit too. -/
theorem emitAll_ok_mono (hle : s.maxOutput ≤ s'.maxOutput) (h : emitAll s st lines = (st', none)) :
    emitAll s' st lines = (st', none) := by
  induction lines generalizing st with
  | nil => exact h
  | cons line lines ih =>
      rw [emitAll_cons] at h ⊢
      split at h
      · rename_i hfits
        rw [if_pos (Int.le_trans hfits hle)]
        exact ih h
      · cases h

/-- What is printed before a breach is printed under a larger limit too, and perhaps more. -/
theorem transcript_prefix_emitAll_mono (hle : s.maxOutput ≤ s'.maxOutput) (st : State)
    (lines : List Text) :
    (emitAll s st lines).1.transcript <+: (emitAll s' st lines).1.transcript := by
  rcases h : emitAll s st lines with ⟨st', failure | failure⟩
  · rw [emitAll_ok_mono hle h]
  · obtain ⟨-, front, line, rest, rfl, hfront⟩ := emitAll_breach h
    rw [emitAll_append, emitAll_ok_mono hle hfront]
    exact transcript_prefix_emitAll s' st' (line :: rest)

/-! ## Statements -/

/-- The lines a statement has to print. -/
def printed (store : Store) : Statement → List Text
  | print call => (Print.lines? store call).getD []
  | clearConsole => [clearedLine]
  | echo text => [text]
  | _ => []

variable {draw : Nat → Float}

/-- A statement prints as much of its lines as the limit admits. -/
theorem transcript_exec (s : Settings) (draw : Nat → Float) (st : State) (t : Statement) :
    (t.exec s draw st).1.transcript = (emitAll s st (t.printed st.store)).1.transcript := by
  cases t with
  | assign name expr =>
      rw [exec, assignTo]
      split <;> rfl
  | print call => rw [exec_print, printed]
  | plot => rfl
  | clearAll => rfl
  | clear names => rfl
  | clearConsole => rfl
  | close => rfl
  | echo text => rfl
  | blank => rfl

end Statement

end SignalLab
