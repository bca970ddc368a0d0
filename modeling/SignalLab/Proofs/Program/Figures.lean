import SignalLab.Proofs.Program.Budget
import SignalLab.Proofs.Program.Plotting

/-!
# Figures — the dataset of a run, by its plot statements

What a dataset shows is decided by two moments of the run: the last one at which a plot statement
finds a signal, and the last one at which it finds a spectrum too.  `Program.Reaches.last_write` is
the argument, for anything that statements write: a value that is written is the one of the last
moment that writes, since no two moments of a run have the same number of statements behind them
(`Program.Reaches.unique`).

  * `Program.Figures` — what a dataset shows, said of these two moments.
  * `Plot.IsFigure` — what holds of a dataset at every point of a run, also between the two series.
  * `Program.run_figures` — a run that succeeds has the figures of its plot statements, and all its
    datasets are figures.
-/

namespace SignalLab

namespace Plot

variable {s : Settings} {store : Store} {dataset dataset' : Dataset} {t x : List Float}
  {spectrum : List ComplexDouble}

/-! ## Figures -/

/-- Whether a dataset has no series but those of a plot, the one over frequency behind the one over
time, and as many values as there are places in each. -/
structure IsFigure (dataset : Dataset) : Prop where
  names : Keyed.names dataset <+: [timeName, frequencyName]
  lengths : ∀ entry ∈ dataset, entry.2.x.length = entry.2.y.length

/-- The names of a figure: none, the one over time, or both. -/
theorem IsFigure.names_eq (h : IsFigure dataset) : Keyed.names dataset = [] ∨
    Keyed.names dataset = [timeName] ∨ Keyed.names dataset = [timeName, frequencyName] := by
  rcases List.prefix_cons_iff.mp h.names with hnil | ⟨front, hcons, hfront⟩
  · exact .inl hnil
  · rcases List.prefix_cons_iff.mp hfront with rfl | ⟨front', rfl, hfront'⟩
    · exact .inr (.inl hcons)
    · obtain rfl := List.prefix_nil.mp hfront'
      exact .inr (.inr hcons)

theorem isFigure_nil : IsFigure [] :=
  ⟨List.nil_prefix, List.forall_mem_nil _⟩

theorem lengths_assign {name : Text} {series : Series} (hseries : series.x.length = series.y.length)
    (h : IsFigure dataset) :
    ∀ entry ∈ Keyed.assign name series dataset, entry.2.x.length = entry.2.y.length := by
  intro entry hentry
  rcases Keyed.mem_assign hentry with rfl | hold
  · exact hseries
  · exact h.lengths entry hold

/-- The series over time is set in its place, or as the first one. -/
theorem IsFigure.assign_time (h : IsFigure dataset) {series : Series}
    (hseries : IsSignal t x series) : IsFigure (Keyed.assign timeName series dataset) where
  names := by
    rw [Keyed.names_assign]
    rcases h.names_eq with hnames | hnames | hnames
    · rw [hnames]
      exact List.prefix_append _ _
    · rw [hnames]
      exact List.prefix_append _ _
    · rw [hnames]
      exact List.prefix_rfl
  lengths := lengths_assign (hseries.length_times.trans hseries.length_samples.symm) h

/-- The series over frequency is set in its place, or behind the one over time. -/
theorem IsFigure.assign_frequency (h : IsFigure dataset) (htime : timeName ∈ Keyed.names dataset)
    {fs : Float} {series : Series} (hseries : IsSpectrum fs spectrum series) :
    IsFigure (Keyed.assign frequencyName series dataset) where
  names := by
    rw [Keyed.names_assign]
    rcases h.names_eq with hnames | hnames | hnames
    · rw [hnames] at htime
      cases htime
    · rw [hnames]
      exact List.prefix_rfl
    · rw [hnames]
      exact List.prefix_rfl
  lengths := lengths_assign (hseries.length_frequencies.trans hseries.length_moduli.symm) h

theorem timeName_mem_assign (series : Series) (dataset : Dataset) :
    timeName ∈ Keyed.names (Keyed.assign timeName series dataset) :=
  List.mem_map.mpr ⟨_, Keyed.mem_of_find? Keyed.find?_assign_self, rfl⟩

/-- A figure without a series over time has none at all. -/
theorem IsFigure.find?_time_eq_none_iff (h : IsFigure dataset) :
    Keyed.find? timeName dataset = none ↔ dataset = [] := by
  constructor
  · intro hnone
    cases dataset with
    | nil => rfl
    | cons entry rest =>
        obtain ⟨key, series⟩ := entry
        obtain ⟨hkey, -⟩ := List.cons_prefix_cons.mp h.names
        rw [Keyed.find?, if_pos hkey] at hnone
        cases hnone
  · rintro rfl
    rfl

theorem IsFigure.sets (h : IsFigure dataset) (hsets : Sets s store dataset dataset') :
    IsFigure dataset' := by
  cases hsets with
  | nothing unseen => exact h
  | signal found unseen shows => exact h.assign_time shows
  | both found seen shows showsBins =>
      exact (h.assign_time shows).assign_frequency (timeName_mem_assign _ _) showsBins

/-- A plot statement makes a figure of a figure, also where it fails. -/
theorem IsFigure.update (h : IsFigure dataset) (s : Settings) (store : Store) :
    IsFigure (update s store dataset).1 := by
  cases hfault : (Plot.update s store dataset).2 with
  | none => exact h.sets (sets_update hfault)
  | some fault =>
      obtain ⟨t, x, -, hset⟩ := update_of_fault hfault
      rw [hset]
      exact h.assign_time (isSignal_timeSeries t x)

theorem IsFigure.timed (h : IsFigure dataset) (store : Store) : IsFigure (timed store dataset) := by
  rw [Plot.timed]
  split
  · exact h.assign_time (isSignal_timeSeries _ _)
  · exact h

end Plot

namespace Outcome

variable {transcript : List Text} {dataset entries : Dataset} {elapsed : Option Float}

theorem dataset_succeeded_eq_none_iff :
    (succeeded transcript dataset elapsed).dataset = none ↔ dataset = [] := by
  cases dataset with
  | nil => exact ⟨fun _ => rfl, fun _ => rfl⟩
  | cons entry rest => exact ⟨nofun, nofun⟩

theorem dataset_succeeded_eq_some_iff :
    (succeeded transcript dataset elapsed).dataset = some entries ↔
      dataset = entries ∧ entries ≠ [] := by
  cases dataset with
  | nil =>
      constructor
      · intro h
        cases h
      · rintro ⟨rfl, hne⟩
        exact absurd rfl hne
  | cons entry rest =>
      constructor
      · intro h
        cases h
        exact ⟨rfl, List.cons_ne_nil _ _⟩
      · rintro ⟨rfl, -⟩
        rfl

end Outcome

/-! ## Statements -/

namespace Statement

variable {s : Settings} {draw : Nat → Float} {st st' : State} {text : Text}

theorem dataset_emitAll (s : Settings) (st : State) (lines : List Text) :
    (emitAll s st lines).1.dataset = st.dataset := by
  obtain ⟨front, -, h⟩ := emitAll_eq_withLines s st lines
  rw [h]
  rfl

/-- A plot is the only statement that touches the dataset. -/
theorem dataset_exec_of_ne_plot {t : Statement} (ht : t ≠ .plot) :
    (t.exec s draw st).1.dataset = st.dataset := by
  cases t with
  | plot => exact absurd rfl ht
  | assign name expr =>
      rw [exec, assignTo]
      split
      · rfl
      · rfl
  | print call =>
      rw [exec_print]
      exact dataset_emitAll s st _
  | clearConsole => exact dataset_emitAll s st _
  | echo text => exact dataset_emitAll s st _
  | clearAll => rfl
  | clear names => rfl
  | close => rfl
  | blank => rfl

/-- A statement makes a figure of a figure, also where it fails. -/
theorem isFigure_exec (hfigure : Plot.IsFigure st.dataset) (draw : Nat → Float) (t : Statement) :
    Plot.IsFigure (t.exec s draw st).1.dataset := by
  by_cases ht : t = .plot
  · subst ht
    exact hfigure.update s st.store
  · rw [dataset_exec_of_ne_plot ht]
    exact hfigure

/-- A statement passes through figures if it begins with one. -/
theorem isFigure_of_mem_states (hfigure : Plot.IsFigure st.dataset) {t : Statement}
    (h : st' ∈ t.states s draw st) : Plot.IsFigure st'.dataset := by
  rcases cases_of_mem_states h with rfl | rfl | ⟨front, rfl⟩ | ⟨front, rfl⟩ | ⟨-, rfl⟩
  · exact hfigure
  · exact isFigure_exec hfigure draw t
  · rw [dataset_emitAll]
    exact hfigure
  · exact hfigure
  · exact hfigure.timed st.store

end Statement

namespace Program

open Plot

variable {s : Settings} {clock draw : Nat → Float} {m m₁ m₂ : Moment}

/-! ## The order of the moments -/

theorem Reaches.steps_le (h : Reaches s clock draw m m₁) : m.steps ≤ m₁.steps := by
  induction h with
  | refl => exact le_rfl
  | step _ _ _ ih => exact Nat.le_succ_of_le ih

/-- No two moments of a run have the same number of statements behind them. -/
theorem Reaches.unique (h₁ : Reaches s clock draw m m₁) (h₂ : Reaches s clock draw m m₂)
    (hsteps : m₁.steps = m₂.steps) : m₁ = m₂ := by
  induction h₁ generalizing m₂ with
  | refl =>
      cases h₂ with
      | refl => rfl
      | @step steps _ _ _ _ _ hbefore _ _ =>
          have hle : m.steps ≤ steps := hbefore.steps_le
          have heq : m.steps = steps + 1 := hsteps
          omega
  | @step steps _ _ _ _ _ hbefore _ hrun ih =>
      cases h₂ with
      | refl =>
          have hle : m.steps ≤ steps := hbefore.steps_le
          have heq : steps + 1 = m.steps := hsteps
          omega
      | step hbefore' _ hrun' =>
          cases ih hbefore' (Nat.succ.inj hsteps)
          cases hrun.symm.trans hrun'
          rfl

/-- The statements behind a moment and those to come are as many as at the start. -/
theorem Reaches.steps_add (h : Reaches s clock draw m m₁) :
    m₁.steps + m₁.rest.length = m.steps + m.rest.length := by
  induction h with
  | refl => rfl
  | @step steps _ _ _ _ rest _ _ _ ih =>
      rw [← ih]
      show steps + 1 + rest.length = steps + (rest.length + 1)
      omega

/-! ## What the last moment wrote -/

/-- Whether a moment is the last one of those with a property. -/
structure IsLast (P : Moment → Prop) (m : Moment) : Prop where
  holds : P m
  last : ∀ m', P m' → m'.steps ≤ m.steps

/-- What the statement of a moment does to an observation of the state: it writes a value, or leaves
the observation as it was. -/
def Writes {β : Type} (observe : State → Option β) (writes : Moment → Prop)
    (value : Moment → β → Prop) (m : Moment) (after : State) : Prop :=
  (writes m ∧ ∃ b, value m b ∧ observe after = some b) ∨
    (¬ writes m ∧ observe after = observe m.state)

/-- What is observed of a state is what the last moment before it wrote. -/
theorem Reaches.last_write {β : Type} {observe : State → Option β} {writes : Moment → Prop}
    {value : Moment → β → Prop} (hreached : ∀ m', writes m' → Reaches s clock draw m m')
    (hstep : ∀ {steps st line text rest after},
      Reaches s clock draw m ⟨steps, st, (line, text) :: rest⟩ → Admits s clock steps →
      Statement.run s draw st text = (after, none) →
      Writes observe writes value ⟨steps, st, (line, text) :: rest⟩ after)
    (h : Reaches s clock draw m m₁) :
    (∃ m₂ b, IsLast (fun m' => writes m' ∧ m'.steps < m₁.steps) m₂ ∧ value m₂ b ∧
      observe m₁.state = some b) ∨
    (∀ m', writes m' → ¬ m'.steps < m₁.steps) ∧ observe m₁.state = observe m.state := by
  induction h with
  | refl => exact .inr ⟨fun m' hwrites => Nat.not_lt.mpr (hreached m' hwrites).steps_le, rfl⟩
  | @step steps st after line text rest hbefore hadm hrun ih =>
      rcases hstep hbefore hadm hrun with ⟨hwrites, b, hvalue, hobserve⟩ | ⟨hnot, hobserve⟩
      · exact .inl ⟨_, b, ⟨⟨hwrites, Nat.lt_succ_self _⟩, fun m' h' => Nat.lt_succ_iff.mp h'.2⟩,
          hvalue, hobserve⟩
      · -- this moment did not write, and no other one has as many statements behind it
        have hbelow : ∀ m', writes m' → m'.steps < steps + 1 → m'.steps < steps := by
          intro m' hwrites hlt
          rcases Nat.lt_succ_iff_lt_or_eq.mp hlt with hlt | heq
          · exact hlt
          · cases (hreached m' hwrites).unique hbefore heq
            exact absurd hwrites hnot
        rcases ih with ⟨m₂, b, hlast, hvalue, hsome⟩ | ⟨hnone, hsame⟩
        · refine .inl ⟨m₂, b, ⟨⟨hlast.holds.1, ?_⟩, ?_⟩, hvalue, hobserve.trans hsome⟩
          · exact Nat.lt_succ_of_lt hlast.holds.2
          · exact fun m' h' => hlast.last m' ⟨h'.1, hbelow m' h'.1 h'.2⟩
        · exact .inr ⟨fun m' hwrites hlt => hnone m' hwrites (hbelow m' hwrites hlt),
            hobserve.trans hsame⟩

/-! ## The plot statements of a run -/

/-- Whether a plot statement is dispatched at a moment of a run. -/
inductive PlotsAt (s : Settings) (clock draw : Nat → Float) (start m : Moment) : Prop
  | intro {line : Nat} {text : Text} (reached : Reaches s clock draw start m)
      (dispatches : Dispatches s clock m line text) (plot : Statement.ofText text = .plot)

/-- Whether a plot statement finds a signal at a moment of a run. -/
def SignalAt (s : Settings) (clock draw : Nat → Float) (start m : Moment) : Prop :=
  PlotsAt s clock draw start m ∧ ∃ t x, FindsSignal m.state.store t x

/-- Whether a plot statement finds a spectrum at a moment of a run. -/
def SpectrumAt (s : Settings) (clock draw : Nat → Float) (start m : Moment) : Prop :=
  PlotsAt s clock draw start m ∧ ∃ spectrum, FindsSpectrum m.state.store spectrum

/-- Whether a series is that of the signal in the store at a moment. -/
def ShowsSignal (m : Moment) (series : Series) : Prop :=
  ∃ t x, FindsSignal m.state.store t x ∧ IsSignal t x series

/-- Whether a series is that of the spectrum in the store at a moment. -/
def ShowsSpectrum (s : Settings) (m : Moment) (series : Series) : Prop :=
  ∃ spectrum, FindsSpectrum m.state.store spectrum ∧
    IsSpectrum (sampleRate s m.state.store) spectrum series

/-- The series under a name in the dataset of a state. -/
def shown? (name : Text) (st : State) : Option Series :=
  Keyed.find? name st.dataset

variable {start : Moment}

theorem PlotsAt.reached (h : PlotsAt s clock draw start m) : Reaches s clock draw start m := by
  obtain ⟨hreach, -, -⟩ := h
  exact hreach

/-- Plots are dispatched before the end of a run that has no statements left. -/
theorem PlotsAt.steps_lt (h : PlotsAt s clock draw start m) (hend : Reaches s clock draw start m₁)
    (hrest : m₁.rest = []) : m.steps < m₁.steps := by
  obtain ⟨hreach, hdisp, -⟩ := h
  have hsteps := hreach.steps_add
  have hlast := hend.steps_add
  obtain ⟨rest, hcons⟩ := List.head?_eq_some_iff.mp hdisp.next
  rw [hcons, List.length_cons] at hsteps
  rw [hrest, List.length_nil] at hlast
  omega

/-- A statement that succeeds is a plot and sets what it finds, or leaves the dataset as it was. -/
theorem plotsAt_or_unchanged {steps line : Nat} {st st' : State} {text : Text}
    {rest : List (Nat × Text)}
    (hreach : Reaches s clock draw start ⟨steps, st, (line, text) :: rest⟩)
    (hadm : Admits s clock steps) (hrun : Statement.run s draw st text = (st', none)) :
    (PlotsAt s clock draw start ⟨steps, st, (line, text) :: rest⟩ ∧
      Sets s st.store st.dataset st'.dataset) ∨
    (¬ PlotsAt s clock draw start ⟨steps, st, (line, text) :: rest⟩ ∧
      st'.dataset = st.dataset) := by
  by_cases hplot : Statement.ofText text = .plot
  · refine .inl ⟨⟨hreach, ⟨rfl, hadm⟩, hplot⟩, ?_⟩
    rw [Statement.run_plot hplot] at hrun
    obtain ⟨hstate, hended⟩ := Prod.mk.inj hrun
    rw [← hstate]
    exact sets_update (Option.map_eq_none_iff.mp hended)
  · refine .inr ⟨?_, ?_⟩
    · rintro ⟨-, hdisp, hplot'⟩
      cases hdisp.next
      exact hplot hplot'
    · have hsame : (Statement.run s draw st text).1.dataset = st.dataset :=
        Statement.dataset_exec_of_ne_plot hplot
      rw [hrun] at hsame
      exact hsame

theorem timeName_ne_frequencyName : timeName ≠ frequencyName := by
  decide

section Statements

variable {steps line : Nat} {st after : State} {text : Text} {rest : List (Nat × Text)}

theorem writes_signal (hreach : Reaches s clock draw start ⟨steps, st, (line, text) :: rest⟩)
    (hadm : Admits s clock steps) (hrun : Statement.run s draw st text = (after, none)) :
    Writes (shown? timeName) (SignalAt s clock draw start) ShowsSignal
      ⟨steps, st, (line, text) :: rest⟩ after := by
  rcases plotsAt_or_unchanged hreach hadm hrun with ⟨hplots, hsets⟩ | ⟨hnot, hsame⟩
  · rw [Writes, shown?]
    generalize after.dataset = dataset' at hsets
    cases hsets with
    | nothing unseen =>
        refine .inr ⟨?_, rfl⟩
        rintro ⟨-, t, x, hfound⟩
        exact unseen t x hfound
    | signal found unseen shows =>
        exact .inl ⟨⟨hplots, _, _, found⟩, _, ⟨_, _, found, shows⟩, Keyed.find?_assign_self⟩
    | both found seen shows showsBins =>
        refine .inl ⟨⟨hplots, _, _, found⟩, _, ⟨_, _, found, shows⟩, ?_⟩
        rw [Keyed.find?_assign_of_ne timeName_ne_frequencyName]
        exact Keyed.find?_assign_self
  · exact .inr ⟨fun hsignal => hnot hsignal.1, congrArg (Keyed.find? timeName) hsame⟩

theorem writes_spectrum (hreach : Reaches s clock draw start ⟨steps, st, (line, text) :: rest⟩)
    (hadm : Admits s clock steps) (hrun : Statement.run s draw st text = (after, none)) :
    Writes (shown? frequencyName) (SpectrumAt s clock draw start) (ShowsSpectrum s)
      ⟨steps, st, (line, text) :: rest⟩ after := by
  rcases plotsAt_or_unchanged hreach hadm hrun with ⟨hplots, hsets⟩ | ⟨hnot, hsame⟩
  · rw [Writes, shown?]
    generalize after.dataset = dataset' at hsets
    cases hsets with
    | nothing unseen =>
        refine .inr ⟨?_, rfl⟩
        rintro ⟨-, spectrum, ⟨t, x, hfound⟩, -, -⟩
        exact unseen t x hfound
    | signal found unseen shows =>
        refine .inr ⟨?_, Keyed.find?_assign_of_ne timeName_ne_frequencyName.symm⟩
        rintro ⟨-, spectrum, hseen⟩
        exact unseen spectrum hseen
    | both found seen shows showsBins =>
        exact .inl ⟨⟨hplots, _, seen⟩, _, ⟨_, seen, showsBins⟩, Keyed.find?_assign_self⟩
  · exact .inr ⟨fun hspectrum => hnot hspectrum.1, congrArg (Keyed.find? frequencyName) hsame⟩

end Statements

/-! ## Runs -/

/-- All states of a run have figures. -/
theorem Reaches.isFigure (h : Reaches s clock draw m m₁) (hm : IsFigure m.state.dataset) :
    IsFigure m₁.state.dataset := by
  induction h with
  | refl => exact hm
  | @step steps st st' line text rest _ _ hrun ih =>
      have hlast := Statement.isFigure_exec (s := s) ih draw (Statement.ofText text)
      rw [← Statement.run, hrun] at hlast
      exact hlast

theorem Passes.isFigure {draws : Nat} {code : Text} {dispatched : Nat} {st : State}
    (h : Passes s clock draw draws code dispatched st) : IsFigure st.dataset := by
  cases h with
  | between hreach => exact hreach.isFigure isFigure_nil
  | within hreach hdisp hinside =>
      exact Statement.isFigure_of_mem_states (hreach.isFigure isFigure_nil) hinside

/-- What the dataset of a run shows: the signal at the last moment at which a plot statement finds
one, and the spectrum at the last moment at which it finds one. -/
structure Figures (s : Settings) (clock draw : Nat → Float) (start : Moment)
    (dataset : Option Dataset) : Prop where
  absent : dataset = none ↔ ∀ m, ¬ SignalAt s clock draw start m
  time : ∀ entries, dataset = some entries → ∃ m series, IsLast (SignalAt s clock draw start) m ∧
    ShowsSignal m series ∧ Keyed.find? timeName entries = some series
  timeOnly : ∀ entries, dataset = some entries →
    (Keyed.find? frequencyName entries = none ↔ ∀ m, ¬ SpectrumAt s clock draw start m)
  frequency : ∀ entries series, dataset = some entries →
    Keyed.find? frequencyName entries = some series →
      ∃ m, IsLast (SpectrumAt s clock draw start) m ∧ ShowsSpectrum s m series

/-- At the end of a run that nothing was observed of at its start, something is observed exactly if
a plot wrote it, and it is what the last of them wrote. -/
theorem Reaches.last_write_of_done {β : Type} {observe : State → Option β}
    {writes : Moment → Prop} {value : Moment → β → Prop}
    (hplots : ∀ m', writes m' → PlotsAt s clock draw start m')
    (hstep : ∀ {steps st line text rest after},
      Reaches s clock draw start ⟨steps, st, (line, text) :: rest⟩ → Admits s clock steps →
      Statement.run s draw st text = (after, none) →
      Writes observe writes value ⟨steps, st, (line, text) :: rest⟩ after)
    (hstart : observe start.state = none) (hreach : Reaches s clock draw start m)
    (hrest : m.rest = []) :
    (observe m.state = none ↔ ∀ m', ¬ writes m') ∧
      ∀ b, observe m.state = some b → ∃ m', IsLast writes m' ∧ value m' b := by
  -- what comes before the end is all there is
  have hbelow : ∀ m', writes m' → m'.steps < m.steps :=
    fun m' hwrites => (hplots m' hwrites).steps_lt hreach hrest
  rcases hreach.last_write (fun m' hwrites => (hplots m' hwrites).reached) hstep with
    ⟨m', b, hlast, hvalue, hsome⟩ | ⟨hnone, hsame⟩
  · -- the last one that writes before the end is the last one of all
    have hlast' : IsLast writes m' :=
      ⟨hlast.holds.1, fun m'' hwrites => hlast.last m'' ⟨hwrites, hbelow m'' hwrites⟩⟩
    rw [hsome]
    refine ⟨⟨nofun, fun hnever => absurd hlast'.holds (hnever m')⟩, ?_⟩
    rintro b' ⟨⟩
    exact ⟨m', hlast', hvalue⟩
  · rw [hsame, hstart]
    exact ⟨⟨fun _ m' hwrites => hnone m' hwrites (hbelow m' hwrites), fun _ => rfl⟩, nofun⟩

/-- A run that comes to its end has the figures of its plot statements. -/
theorem Reaches.figures_of_done (hreach : Reaches s clock draw start m) (hrest : m.rest = [])
    (hstart : start.state.dataset = []) (transcript : List Text) (elapsed : Option Float) :
    Figures s clock draw start
      (Outcome.succeeded transcript m.state.dataset elapsed).dataset := by
  have hunshown : ∀ name, shown? name start.state = none := by
    intro name
    rw [shown?, hstart]
    rfl
  obtain ⟨hunsignalled, hsignal⟩ :=
    hreach.last_write_of_done (fun m' h => h.1) writes_signal (hunshown timeName) hrest
  obtain ⟨hunseen, hspectrum⟩ :=
    hreach.last_write_of_done (fun m' h => h.1) writes_spectrum (hunshown frequencyName) hrest
  have htime : Keyed.find? timeName m.state.dataset = none ↔ m.state.dataset = [] :=
    (hreach.isFigure (hstart ▸ isFigure_nil)).find?_time_eq_none_iff
  refine ⟨?_, ?_, ?_, ?_⟩
  · rw [Outcome.dataset_succeeded_eq_none_iff, ← htime]
    exact hunsignalled
  · intro entries h
    obtain ⟨rfl, hne⟩ := Outcome.dataset_succeeded_eq_some_iff.mp h
    obtain ⟨series, hfound⟩ := Option.ne_none_iff_exists'.mp (mt htime.mp hne)
    obtain ⟨m', hlast, hshows⟩ := hsignal series hfound
    exact ⟨m', series, hlast, hshows, hfound⟩
  · intro entries h
    obtain ⟨rfl, -⟩ := Outcome.dataset_succeeded_eq_some_iff.mp h
    exact hunseen
  · intro entries series h hfound
    obtain ⟨rfl, -⟩ := Outcome.dataset_succeeded_eq_some_iff.mp h
    exact hspectrum series hfound

/-- A run that succeeds shows the last signal and the last spectrum that its plot statements found,
and at every point of a run, whether it succeeds or not, the dataset is a figure. -/
theorem run_figures (s : Settings) (clock draw : Nat → Float) (code : Text) :
    ((run s clock draw code).success = true →
      Figures s clock draw (.start 0 code) (run s clock draw code).dataset) ∧
    ∀ dispatched st, Passes s clock draw 0 code dispatched st → IsFigure st.dataset := by
  refine ⟨?_, fun dispatched st hpasses => hpasses.isFigure⟩
  rw [run, Progress.success_outcome_iff]
  obtain ⟨m, hreach, hends⟩ := exists_ends s clock draw (.start 0 code)
  change Ends s clock draw m (execute s clock draw 0 code) at hends
  generalize execute s clock draw 0 code = p at hends
  intro hstop
  cases hends with
  | done => exact hreach.figures_of_done rfl rfl _ _
  | overdue late => cases hstop
  | exhausted many => cases hstop
  | failed admitted fails => cases hstop

/-- Of two plots the second one counts, cut to the samples that are there then. -/
theorem run_figures_of_two_plots :
    let code : Text := "t = 0:1:2\nx = 0:1:4\nplot(t, x)\nx = 5:1:6\nplot(t, x)\nx = 0"
    let o := run Settings.standard (fun _ => 0.0) (fun _ => 0.0) code
    o.success = true ∧
      Figures Settings.standard (fun _ => 0.0) (fun _ => 0.0) (.start 0 code) o.dataset ∧
      (o.dataset.map fun dataset => (Keyed.find? timeName dataset).map (·.y.length)) =
        some (some 2) ∧
      o.dataset.map Keyed.names = some [timeName] := by
  intro code o
  have hsuccess : o.success = true := by decide +kernel
  exact ⟨hsuccess, (run_figures _ _ _ code).1 hsuccess, by decide +kernel, by decide +kernel⟩

end Program

end SignalLab
