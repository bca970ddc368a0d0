import SignalLab.Lab.Execution
import SignalLab.Proofs.Outcome.RoundTrip
import SignalLab.Proofs.Program.Moment

/-!
# Series of a lab — what is plotted, and by whom

A lab program has the series of its run, if that succeeds.  If it fails, the series of the
demonstration in its place are shown, and every demonstration has some; the general transcript has
none.

  * `Lab.hasSeries_execute` — which lab programs show series.
-/

namespace SignalLab.Lab

open Fallible

/-- A signal is shown with at least one series. -/
theorem ne_nil_of_signalDataset {signal : List Float} {spectrum : List ComplexDouble}
    {label : String} {dataset : Dataset} (h : signalDataset signal spectrum label = .ok dataset) :
    dataset ≠ [] := by
  obtain ⟨frequency, -, h⟩ := bind_ok_iff.mp h
  cases h
  exact List.cons_ne_nil _ _

/-- Every demonstration has series. -/
theorem dataset_ne_nil_of_demonstrateWith {waves : Waves} {topic : Topic} {shown : Demonstration}
    (h : demonstrateWith waves topic = .ok shown) : shown.dataset ≠ [] := by
  have h := mapError_ok_iff.mp h
  -- the series are named in the last step; the others only have to come to a value
  cases topic with
  | basic =>
      obtain ⟨signal, -, h⟩ := bind_ok_iff.mp h
      obtain ⟨rows, -, h⟩ := bind_ok_iff.mp h
      obtain ⟨k, -, h⟩ := bind_ok_iff.mp h
      dsimp only at h
      split at h
      all_goals
        obtain ⟨detail, -, h⟩ := bind_ok_iff.mp h
        obtain ⟨dataset, hdataset, h⟩ := bind_ok_iff.mp h
        cases h
        exact ne_nil_of_signalDataset hdataset
  | twoTone =>
      obtain ⟨signal, -, h⟩ := bind_ok_iff.mp h
      obtain ⟨tones, -, h⟩ := bind_ok_iff.mp h
      obtain ⟨dataset, hdataset, h⟩ := bind_ok_iff.mp h
      cases h
      exact ne_nil_of_signalDataset hdataset
  | trigonometric =>
      obtain ⟨signal, -, h⟩ := bind_ok_iff.mp h
      obtain ⟨parts, -, h⟩ := bind_ok_iff.mp h
      obtain ⟨dataset, -, h⟩ := bind_ok_iff.mp h
      cases h
      exact Keyed.assign_ne_nil _ _ _
  | reconstruction =>
      obtain ⟨signal, -, h⟩ := bind_ok_iff.mp h
      obtain ⟨constant, -, h⟩ := bind_ok_iff.mp h
      obtain ⟨rms, -, h⟩ := bind_ok_iff.mp h
      cases h
      exact List.cons_ne_nil _ _

/-- What is shown in place of a failed program has series just if it is a demonstration. -/
theorem replacement_shows_iff (code : Text) :
    (∃ shown, replacement demonstrate code = .ok shown ∧ shown.dataset ≠ []) ↔
      ∃ topic shown, Topic.ofText? code = some topic ∧ demonstrate topic = .ok shown := by
  rw [replacement]
  cases Topic.ofText? code with
  | none =>
      refine iff_of_false ?_ ?_
      · rintro ⟨shown, h, hdataset⟩
        dsimp only at h
        split at h
        · cases h
          exact hdataset rfl
        · cases h
      · rintro ⟨topic, shown, h, -⟩
        cases h
  | some topic =>
      constructor
      · rintro ⟨shown, h, -⟩
        exact ⟨topic, shown, rfl, h⟩
      · rintro ⟨topic', shown, htopic, h⟩
        cases htopic
        exact ⟨shown, h, dataset_ne_nil_of_demonstrateWith h⟩

/-! ## Lab programs -/

/-- A success shows series if its dataset has any. -/
theorem hasSeries_succeeded (transcript : List Text) (dataset : Dataset) (elapsed : Option Float) :
    (Outcome.succeeded transcript dataset elapsed).HasSeries ↔ dataset ≠ [] := by
  cases dataset with
  | nil =>
      refine iff_of_false ?_ (fun h => h rfl)
      rintro ⟨dataset, h, -⟩
      cases h
  | cons series rest => exact iff_of_true ⟨_, rfl, List.cons_ne_nil _ _⟩ (List.cons_ne_nil _ _)

/-- A replacement shows series if the demonstration has any. -/
theorem hasSeries_replacementOutcome (elapsed : Float) (r : Except Text Demonstration) :
    (replacementOutcome elapsed r).HasSeries ↔ ∃ shown, r = .ok shown ∧ shown.dataset ≠ [] := by
  cases r with
  | ok shown =>
      rw [replacementOutcome, hasSeries_succeeded]
      constructor
      · intro h
        exact ⟨shown, rfl, h⟩
      · rintro ⟨shown', h, hdataset⟩
        cases h
        exact hdataset
  | error message =>
      refine iff_of_false ?_ ?_
      · rintro ⟨dataset, h, -⟩
        cases h
      · rintro ⟨shown, h, -⟩
        cases h

variable (clock draw : Nat → Float) (code : Text)

/-- Whether a lab program shows series: its run succeeds and plotted some, or it fails and the text
asks for a demonstration that does not fail as well. -/
def ShowsSeries : Prop :=
  let p := Program.execute Settings.standard (Program.clockFrom clock 1) draw 0 code
  (p.stop = none ∧ p.state.dataset ≠ []) ∨ (p.stop ≠ none ∧
    ∃ topic shown, Topic.ofText? code = some topic ∧ demonstrate topic = .ok shown)

/-- Whether an answer of the lab shows series is told by the run and the markers. -/
theorem hasSeries_execute :
    (execute Settings.standard clock draw demonstrate code).HasSeries ↔
      ShowsSeries clock draw code := by
  rw [execute, ShowsSeries]
  generalize Program.execute Settings.standard (Program.clockFrom clock 1) draw 0 code = p
  by_cases hstop : p.stop = none
  · rw [if_pos ((Program.Progress.success_outcome_iff _ p).mpr hstop), Program.Progress.outcome,
      hstop]
    dsimp only
    rw [hasSeries_succeeded]
    simp only [ne_eq, not_true_eq_false, false_and, or_false, true_and]
  · rw [if_neg (fun h => hstop ((Program.Progress.success_outcome_iff _ p).mp h)),
      hasSeries_replacementOutcome, replacement_shows_iff]
    simp only [hstop, ne_eq, not_false_eq_true, false_and, false_or, true_and]

end SignalLab.Lab
