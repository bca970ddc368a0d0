import SignalLab.Proofs.Lab.Demonstrations
import SignalLab.Proofs.Lab.Series
import SignalLab.Proofs.Text.Words

/-!
# Markers — what a lab program is answered with

A lab program that runs is answered with its outcome.  For one that fails only its text counts: the
first title of a lab in it, or else the first heading, settles which demonstration is shown, where
the order is that of the tables and not that of the text.  Two failed programs that ask for the
same demonstration cannot be told apart but by the time they took.

  * `Lab.Topic.isAskedBy_iff` — the topic found for a program is the one that it asks for.
  * `Lab.execute_answered` — what a lab program is answered with.
-/

namespace SignalLab.Lab

namespace Topic

/-- A marker occurs in a program, wherever and as often as it does. -/
def Occurs (marker : Topic × String) (code : Text) : Prop :=
  marker.2.toList <:+: code

/-- The topic of the first of some markers to occur in a program. -/
def IsFirstOf (markers : List (Topic × String)) (topic : Topic) (code : Text) : Prop :=
  ∃ before marker after, markers = before ++ marker :: after ∧ marker.1 = topic ∧
    Occurs marker code ∧ ∀ earlier ∈ before, ¬ Occurs earlier code

/-- A program asks for the topic of the first title in it, or of the first heading if there is no
title. -/
inductive IsAskedBy (topic : Topic) (code : Text) : Prop
  | title (first : IsFirstOf titles topic code)
  | heading (untitled : ∀ marker ∈ titles, ¬ Occurs marker code)
      (first : IsFirstOf headings topic code)

variable {code : Text} {topic : Topic} {markers : List (Topic × String)}

/-- No marker is found exactly if none occurs. -/
theorem find?_eq_none_iff : (markers.find? fun marker => Text.includes marker.2 code) = none ↔
    ∀ marker ∈ markers, ¬ Occurs marker code := by
  simp only [List.find?_eq_none, Text.includes_iff, Occurs]

/-- The marker that is found is the first that occurs. -/
theorem isFirstOf_iff : IsFirstOf markers topic code ↔
    ∃ marker, (markers.find? fun marker => Text.includes marker.2 code) = some marker ∧
      marker.1 = topic := by
  simp only [List.find?_eq_some_iff_append, Bool.not_eq_true', ← Bool.not_eq_true,
    Text.includes_iff]
  constructor
  · rintro ⟨before, marker, after, hmarkers, htopic, hoccurs, hearlier⟩
    exact ⟨marker, ⟨hoccurs, before, after, hmarkers, hearlier⟩, htopic⟩
  · rintro ⟨marker, ⟨hoccurs, before, after, hmarkers, hearlier⟩, htopic⟩
    exact ⟨before, marker, after, hmarkers, htopic, hoccurs, hearlier⟩

/-- The topic found for a program is the one that it asks for. -/
theorem isAskedBy_iff : IsAskedBy topic code ↔ ofText? code = some topic := by
  rw [ofText?, Topic.markers, List.find?_append]
  cases htitle : titles.find? fun marker => Text.includes marker.2 code with
  | none =>
      have huntitled := find?_eq_none_iff.mp htitle
      rw [Option.none_or, Option.map_eq_some_iff, ← isFirstOf_iff]
      refine ⟨fun h => ?_, .heading huntitled⟩
      cases h with
      | title first =>
          obtain ⟨marker, hmarker, -⟩ := isFirstOf_iff.mp first
          cases htitle.symm.trans hmarker
      | heading untitled first => exact first
  | some marker =>
      have hfirst : IsFirstOf titles topic code ↔ marker.1 = topic := by
        rw [isFirstOf_iff, htitle]
        simp only [Option.some.injEq, exists_eq_left']
      rw [Option.some_or, Option.map_some, Option.some.injEq, ← hfirst]
      refine ⟨fun h => ?_, .title⟩
      cases h with
      | title first => exact first
      | heading untitled first =>
          cases htitle.symm.trans (find?_eq_none_iff.mpr untitled)

/-- A title counts before a heading, also where it is behind it in the text. -/
example : ofText? "% TWO-TONE\n% Lab 4.4: Signal Reconstruction" = some reconstruction := by
  decide +kernel

/-- A code asks for no topic exactly if no marker occurs in it. -/
theorem ofText?_eq_none_iff :
    ofText? code = none ↔ ∀ marker ∈ Topic.markers, ¬ Occurs marker code := by
  rw [ofText?, Option.map_eq_none_iff, find?_eq_none_iff]

end Topic

/-! ## Answers -/

/-- What a lab program is answered with, in terms of its run. -/
structure Answered (waves : Waves) (code : Text) (run answer : Outcome) : Prop where
  /-- A run that succeeds is the answer. -/
  kept : run.success = true → answer = run
  /-- A failed program that has a marker asks for a demonstration. -/
  asked : run.success = false → (∃ marker ∈ Topic.markers, Topic.Occurs marker code) →
    ∃ topic, Topic.IsAskedBy topic code
  /-- The demonstration that a failed program asks for is the answer; it does not fail in its turn. -/
  shown : run.success = false → ∀ topic, Topic.IsAskedBy topic code →
    ∃ shown, demonstrateWith waves topic = .ok shown ∧ answer.success = true ∧
      answer.transcript = shown.transcript.map .text ∧ answer.dataset = some shown.dataset
  /-- A failed program without a marker has no series. -/
  plain : run.success = false → (∀ marker ∈ Topic.markers, ¬ Topic.Occurs marker code) →
    answer.dataset = none

variable {waves : Waves} {s : Settings} {clock draw : Nat → Float} {code : Text}

/-- A success of the interpreter is the answer, whatever markers occur. -/
theorem execute_of_success
    (h : (Program.run s (Program.clockFrom clock 1) draw code).success = true) :
    execute s clock draw (demonstrateWith waves) code =
      Program.run s (Program.clockFrom clock 1) draw code :=
  if_pos h

/-- Nothing but the time of a failed run is left. -/
theorem execute_of_failure
    (h : (Program.run s (Program.clockFrom clock 1) draw code).success = false) :
    ∃ elapsed, execute s clock draw (demonstrateWith waves) code =
      replacementOutcome elapsed (replacement (demonstrateWith waves) code) :=
  ⟨_, if_neg (Bool.eq_false_iff.mp h)⟩

/-- The time stands beside what a replacement shows. -/
theorem replacementOutcome_elapsed (elapsed elapsed' : Float) (r : Except Text Demonstration) :
    replacementOutcome elapsed' r =
      { replacementOutcome elapsed r with elapsed := some elapsed' } := by
  cases r <;> rfl

/-- The replacement is the demonstration that is asked for. -/
theorem replacement_of_isAskedBy {topic : Topic} (h : Topic.IsAskedBy topic code) :
    replacement (demonstrateWith waves) code = demonstrateWith waves topic := by
  rw [replacement, Topic.isAskedBy_iff.mp h]

/-- A replacement of a code without markers has no series. -/
theorem dataset_replacement_of_unmarked {shown : Demonstration}
    (hunmarked : ∀ marker ∈ Topic.markers, ¬ Topic.Occurs marker code)
    (h : replacement (demonstrateWith waves) code = .ok shown) : shown.dataset = [] := by
  rw [replacement, Topic.ofText?_eq_none_iff.mpr hunmarked] at h
  dsimp only at h
  split at h
  · cases h
    rfl
  · cases h

theorem answered_execute (hwaves : waves.AreBounded) (s : Settings) (clock draw : Nat → Float)
    (code : Text) :
    Answered waves code (Program.run s (Program.clockFrom clock 1) draw code)
      (execute s clock draw (demonstrateWith waves) code) where
  kept := execute_of_success
  asked _ hmarked := by
    cases htopic : Topic.ofText? code with
    | some topic => exact ⟨topic, Topic.isAskedBy_iff.mpr htopic⟩
    | none =>
        obtain ⟨marker, hmarker, hoccurs⟩ := hmarked
        exact absurd hoccurs (Topic.ofText?_eq_none_iff.mp htopic marker hmarker)
  shown hfails topic hasked := by
    obtain ⟨shown, hshown⟩ := exists_demonstrateWith hwaves topic
    obtain ⟨elapsed, hanswer⟩ := execute_of_failure hfails
    refine ⟨shown, hshown, ?_⟩
    rw [hanswer, replacement_of_isAskedBy hasked, hshown, replacementOutcome, Outcome.succeeded,
      if_neg (mt List.isEmpty_iff.mp (dataset_ne_nil_of_demonstrateWith hshown))]
    exact ⟨rfl, rfl, rfl⟩
  plain hfails hunmarked := by
    obtain ⟨elapsed, hanswer⟩ := execute_of_failure hfails
    rw [hanswer]
    cases hshown : replacement (demonstrateWith waves) code with
    | ok shown =>
        rw [replacementOutcome, Outcome.succeeded,
          dataset_replacement_of_unmarked hunmarked hshown]
        rfl
    | error message => rfl

/-- Every lab program is answered so, and two failed programs that ask for the same demonstration are
answered alike, whatever else they are and however they failed.  The demonstrations are those of any
sine and cosine with values between minus one and one. -/
theorem execute_answered (waves : Waves) (hwaves : waves.AreBounded) (s : Settings)
    (clock draw : Nat → Float) (code : Text) :
    let run := Program.run s (Program.clockFrom clock 1) draw code
    let answer := execute s clock draw (demonstrateWith waves) code
    Answered waves code run answer ∧ ∀ s' clock' draw' code',
      run.success = false →
      (Program.run s' (Program.clockFrom clock' 1) draw' code').success = false →
      (code' = code ∨ ∃ topic, Topic.IsAskedBy topic code ∧ Topic.IsAskedBy topic code') →
      let answer' := execute s' clock' draw' (demonstrateWith waves) code'
      answer' = { answer with elapsed := answer'.elapsed } := by
  intro run answer
  refine ⟨answered_execute hwaves s clock draw code, ?_⟩
  intro s' clock' draw' code' hrun hrun' hsame answer'
  obtain ⟨elapsed, hanswer⟩ := execute_of_failure hrun
  obtain ⟨elapsed', hanswer'⟩ := execute_of_failure hrun'
  have hreplacement : replacement (demonstrateWith waves) code' =
      replacement (demonstrateWith waves) code := by
    rcases hsame with rfl | ⟨topic, hasked, hasked'⟩
    · rfl
    · rw [replacement_of_isAskedBy hasked, replacement_of_isAskedBy hasked']
  have halike : answer' = { answer with elapsed := some elapsed' } := by
    rw [show answer' = _ from hanswer', show answer = _ from hanswer, hreplacement,
      replacementOutcome_elapsed elapsed]
  rw [halike]

/-- A program that asks for too long a vector; the title in it counts before the heading in front of it.
Another one with the title fails at its first step and is answered alike. -/
theorem execute_answered_of_too_long_vector :
    let s := Settings.standard
    let clock : Nat → Float := fun _ => 0.0
    let code : Text := "% TWO-TONE\nx = rand(1, 2000000) % Lab 4.4: Signal Reconstruction"
    let short : Text := "x = 1 % Lab 4.4: Signal Reconstruction"
    let answer := execute s clock Double.ofNat (demonstrateWith .series) code
    let answer' :=
      execute { s with maxSteps := 0 } clock clock (demonstrateWith .series) short
    (Program.run s (Program.clockFrom clock 1) Double.ofNat code).success = false ∧
    (∃ shown, demonstrateWith .series .reconstruction = .ok shown ∧ answer.success = true ∧
      answer.transcript = shown.transcript.map .text ∧ answer.dataset = some shown.dataset) ∧
    answer'.transcript = answer.transcript ∧ answer'.dataset = answer.dataset := by
  intro s clock code short answer answer'
  obtain ⟨hanswered, halike⟩ :=
    execute_answered .series Waves.areBounded_series s clock Double.ofNat code
  have hfails : (Program.run s (Program.clockFrom clock 1) Double.ofNat code).success = false := by
    decide +kernel
  have hfails' : (Program.run { s with maxSteps := 0 } (Program.clockFrom clock 1) clock
      short).success = false := by
    decide +kernel
  have hasked : Topic.IsAskedBy .reconstruction code := Topic.isAskedBy_iff.mpr (by decide +kernel)
  have hasked' : Topic.IsAskedBy .reconstruction short := Topic.isAskedBy_iff.mpr (by decide +kernel)
  have hsame := halike { s with maxSteps := 0 } clock clock short hfails hfails'
    (.inr ⟨.reconstruction, hasked, hasked'⟩)
  have hparts : ∀ a b : Outcome, b = { a with elapsed := b.elapsed } →
      b.transcript = a.transcript ∧ b.dataset = a.dataset := by
    intro a b h
    rw [h]
    exact ⟨rfl, rfl⟩
  exact ⟨hfails, hanswered.shown hfails .reconstruction hasked, hparts answer answer' hsame⟩

end SignalLab.Lab
