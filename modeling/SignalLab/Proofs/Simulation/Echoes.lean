import SignalLab.Proofs.Backend.Replay
import SignalLab.Proofs.Fallible
import SignalLab.Proofs.Simulation.Neutralization
import SignalLab.Proofs.Text.Trimming

/-!
# Echoes — what a simulated transcript shows of the program

A simulation echoes the trimmed lines of the sanitized program.  Sanitizing and echoing do not agree
on the gap in front of a line: a shell escape may have spaces and tabs before its exclamation mark,
while trimming takes away blanks of every kind.  So no echoed line calls a denied name, but a line
whose gap has another blank in it, such as a vertical tab, is echoed with its exclamation mark first
(`Backends.echoes_free_of_escapes_iff`).
-/

namespace SignalLab

open Text DenyList Fallible

namespace Echo

/-- Whether a trimmed line is echoed: it is neither blank nor a comment. -/
def isShown (line : Text) : Bool :=
  !(line.isEmpty || line.head? = some '%')

/-- The lines of a program that are echoed, trimmed. -/
def shown (code : Text) : List Text :=
  ((splitAt '\n' code).map trim).filter isShown

/-- A line is echoed if it is shown, and may be followed up. -/
theorem lineEcho_eq (line : Text) :
    lineEcho line = if isShown line then echoed line :: followUp line else [] := by
  rw [lineEcho]
  by_cases h : line.isEmpty = true ∨ line.head? = some '%'
  · have hshown : isShown line = false := by simpa [isShown, ← or_iff_not_imp_left] using h
    rw [if_pos h, if_neg (by rw [hshown]; decide)]
  · have hshown : isShown line = true := by simpa [isShown] using h
    rw [if_neg h, if_pos hshown]

/-- The transcript is made of the lines that are shown. -/
theorem transcribe_eq (code : Text) :
    transcribe code = (shown code).flatMap fun line => echoed line :: followUp line := by
  rw [transcribe, shown]
  induction splitAt '\n' code with
  | nil => rfl
  | cons line rest ih =>
      rw [List.flatMap_cons, ih, List.map_cons, lineEcho_eq]
      by_cases h : isShown (trim line) = true
      · rw [if_pos h, List.filter_cons_of_pos h, List.flatMap_cons]
      · rw [if_neg h, List.filter_cons_of_neg h, List.nil_append]

/-- What is shown is a trimmed line. -/
theorem mem_of_mem_shown {code line : Text} (h : line ∈ shown code) :
    ∃ source ∈ splitAt '\n' code, trim source = line :=
  List.mem_map.mp (List.mem_filter.mp h).1

/-- Behind the gap in front of a line's text a call may begin. -/
theorem mayBegin_behind_gap {front gap : Text} (hbreak : ∀ c, front.getLast? = some c → c = '\n')
    (hgap : ∀ c ∈ gap, isBlank c = true) : mayBegin ((front ++ gap).getLast?.or none) = true := by
  rw [Option.or_none, List.getLast?_append]
  cases hlast : gap.getLast? with
  | some c => exact mayBegin_of_isBlank (hgap c (List.mem_of_getLast? hlast))
  | none =>
      rw [Option.none_or]
      cases hfront : front.getLast? with
      | none => rfl
      | some c =>
          rw [hbreak c hfront]
          exact mayBegin_of_isBlank (by decide)

/-- A call in an echoed line is one in the program. -/
theorem calls_of_mem_shown {name : String} {code line : Text} (hmem : line ∈ shown code)
    (h : Calls name none line) : Calls name none code := by
  obtain ⟨source, hsource, rfl⟩ := mem_of_mem_shown hmem
  obtain ⟨front, back, hcode, hbreak⟩ := exists_eq_append_of_mem_splitAt hsource
  obtain ⟨gap, trail, hline, hgap⟩ := exists_eq_append_trim source
  have hsplit : code = (front ++ gap) ++ (trim source ++ (trail ++ back)) := by
    rw [hcode]
    nth_rewrite 1 [hline]
    simp
  have hcalls : Calls name ((front ++ gap).getLast?.or none) (trim source) :=
    h.of_mayBegin (mayBegin_behind_gap hbreak hgap)
  rw [hsplit]
  exact (hcalls.before_append (trail ++ back)).behind (front ++ gap)

/-- An echoed line begins with an exclamation mark exactly if a line of the program does behind
blanks. -/
theorem exists_mem_shown_iff (code : Text) :
    (∃ line ∈ shown code, line.head? = some '!') ↔
      (splitAt '\n' code).any (startsWith isBlank '!') = true := by
  rw [List.any_eq_true]
  constructor
  · rintro ⟨line, hmem, hhead⟩
    obtain ⟨source, hsource, rfl⟩ := mem_of_mem_shown hmem
    rw [head?_trim] at hhead
    exact ⟨source, hsource, decide_eq_true hhead⟩
  · rintro ⟨source, hsource, hstart⟩
    have hhead : (trim source).head? = some '!' := by
      rw [head?_trim]
      exact of_decide_eq_true hstart
    refine ⟨trim source, List.mem_filter.mpr ⟨List.mem_map_of_mem hsource, ?_⟩, hhead⟩
    rw [isShown, hhead]
    cases htrim : trim source with
    | nil =>
        rw [htrim] at hhead
        cases hhead
    | cons c t => rfl

end Echo

/-! ## Simulations -/

namespace Simulation

/-- The transcript of a simulation that echoes the given lines. -/
def transcriptOf (echoes : List Text) (elapsed : Float) : List Text :=
  firstLine :: (echoes.flatMap fun line => Echo.echoed line :: Echo.followUp line) ++
    [lastLine elapsed]

/-- What is echoed is in the transcript. -/
theorem echoed_mem_transcriptOf {echoes : List Text} {line : Text} (h : line ∈ echoes)
    (elapsed : Float) : Echo.echoed line ∈ transcriptOf echoes elapsed := by
  rw [transcriptOf, List.mem_append, List.mem_cons, List.mem_flatMap]
  exact .inl (.inr ⟨line, h, List.mem_cons_self⟩)

/-- A simulation succeeds, and its transcript is the echo of the code. -/
theorem transcript_of_run {clock draw : Nat → Float} {pause : Float} {code : Text} {o : Outcome}
    (h : run clock draw pause code = .ok o) :
    o.success = true ∧
      ∃ elapsed, o.transcript = (transcriptOf (Echo.shown code) elapsed).map .text := by
  obtain ⟨dataset, -, h⟩ := bind_ok_iff.mp h
  cases h
  rw [Echo.transcribe_eq]
  exact ⟨rfl, _, rfl⟩

end Simulation

/-- The simulator as a backend is the simulation. -/
theorem result_simulator (draw clock : Nat → Float) (code : Text) :
    (simulator draw clock code).1 =
      (Simulation.run clock draw 0.0 code).mapError SimulationFault.message := by
  rw [simulator]
  split <;> rename_i heq <;> rw [heq] <;> rfl

/-! ## A silent program -/

namespace Double

open Float.Model

/-- A product with zero is never infinite. -/
theorem isInf_mul_of_unpack_zero {x : Float} {sign : UnpackedFloat.Sign}
    (hx : x.toModel.unpack = .zero sign) (y : Float) : (x * y).isInf = false := by
  have hproduct : UnpackedFloat.mul Format.binary64 (.zero sign) y.toModel.unpack = .notANumber ∨
      ∃ s, UnpackedFloat.mul Format.binary64 (.zero sign) y.toModel.unpack = .zero s := by
    cases y.toModel.unpack with
    | notANumber => exact .inl rfl
    | infinity s => exact .inl rfl
    | zero s => exact .inr ⟨_, rfl⟩
    | finite s m e h => exact .inr ⟨_, rfl⟩
  show (pack (UnpackedFloat.mul Format.binary64 x.toModel.unpack y.toModel.unpack)).isInf = false
  rw [hx]
  rcases hproduct with h | ⟨s, h⟩
  · rw [h]
    decide
  · rw [h]
    cases s <;> decide

/-- The sine of nothing is a number. -/
theorem sin_mul_of_unpack_zero {x : Float} {sign : UnpackedFloat.Sign}
    (hx : x.toModel.unpack = .zero sign) (y : Float) :
    Double.sin (x * y) = .ok (Float.sin (x * y)) := by
  rw [Double.sin, ofAngle, isInf_mul_of_unpack_zero hx y]
  rfl

end Double

namespace Simulation

/-- The tone of frequency zero has a sample at every time, infinite times among them. -/
theorem exists_toneSample_zero (t : Float) : ∃ x, toneSample [0] t = .ok x := by
  have hfrequency : Double.ofInt 0 = .ok (Double.nearest false 0 1) := by rfl
  have hstill : (Spectrum.turn * Double.nearest false 0 1).toModel.unpack = .zero .positive := by
    rfl
  have hsin := Double.sin_mul_of_unpack_zero hstill t
  rw [toneSample, sumTones]
  simp only [List.zipIdx_cons, List.zipIdx_nil, List.foldlM_cons, List.foldlM_nil, hfrequency]
  show ∃ x, ((Double.sin (Spectrum.turn * Double.nearest false 0 1 * t) >>= _) >>= _) = Except.ok x
  rw [hsin]
  exact ⟨_, rfl⟩

/-- A code without a transform has series even without samples. -/
theorem exists_series_zero_eq_ok {code : Text} (draw : Nat → Float)
    (hplain : Text.includes "fft(" code = false) :
    ∃ dataset, series draw code 1 [0] = .ok dataset := by
  obtain ⟨t, ht⟩ : ∃ t, times 1 = .ok t := isOk_iff.mp (by decide +kernel)
  obtain ⟨samples, hsamples⟩ : ∃ samples, t.mapM (toneSample [0]) = .ok samples :=
    exists_mapM_ok fun x _ => exists_toneSample_zero x
  have hseries : series draw code 1 [0] = .ok [(Plot.timeName,
      .line t (if isNoisy code then addNoise draw samples else samples) "Signal")] := by
    rw [series, ht]
    show (t.mapM (toneSample [0]) >>= _) = _
    rw [hsamples]
    show (if _ then _ else _) = _
    rw [if_neg (by rw [hplain]; decide)]
  exact ⟨_, hseries⟩

/-- A program at rate one whose only frequency is zero, and without a spectrum, is simulated. -/
theorem exists_run_eq_ok {code : Text} (clock draw : Nat → Float) (pause : Float)
    (hrate : Parameter.sampleRate code defaultSampleRate = .ok 1)
    (htones : Parameter.frequencies code = .ok [0]) (hplain : Text.includes "fft(" code = false) :
    ∃ o, run clock draw pause code = .ok o := by
  obtain ⟨dataset, hseries⟩ := exists_series_zero_eq_ok draw hplain
  have hsynthesize : synthesize draw code = .ok dataset := by
    refine bind_ok_iff.mpr ⟨1, hrate, ?_⟩
    refine bind_ok_iff.mpr ⟨[0], htones, ?_⟩
    exact mapError_ok_iff.mpr hseries
  rw [run, hsynthesize]
  exact ⟨_, rfl⟩

end Simulation

/-! ## Dispatches -/

namespace Backends

/-- A simulation comes to what the run of the sanitized program does. -/
theorem simulate_eq_ofResult (b : Backends) (clock draw : Nat → Float) (readings : Nat)
    (code : Text) (o : Options) :
    ∃ elapsed, { b with simulator := SignalLab.simulator draw }.simulate clock readings code o =
      .ofResult o.plotOutput elapsed
        ((Simulation.run (Program.clockFrom clock readings) draw 0.0 (sanitize code)).mapError
          SimulationFault.message) := by
  rw [simulate_eq_settle, ← result_simulator]
  exact ⟨_, rfl⟩

/-- What is simulated is the sanitized code. -/
theorem transcript_simulate_of_run {b : Backends} {clock draw : Nat → Float} {readings : Nat}
    {code : Text} {answer : Outcome} (o : Options)
    (h : Simulation.run (Program.clockFrom clock readings) draw 0.0 (sanitize code) = .ok answer) :
    let outcome := { b with simulator := SignalLab.simulator draw }.simulate clock readings code o
    outcome.success = true ∧ ∃ elapsed, outcome.transcript =
      (Simulation.transcriptOf (Echo.shown (sanitize code)) elapsed).map .text := by
  intro outcome
  obtain ⟨hsuccess, elapsed, htranscript⟩ := Simulation.transcript_of_run h
  obtain ⟨time, houtcome⟩ : ∃ time, outcome = .ofResult o.plotOutput time _ :=
    simulate_eq_ofResult b clock draw readings code o
  rw [houtcome, h]
  cases o.plotOutput <;> exact ⟨hsuccess, elapsed, htranscript⟩

/-- What a simulation shows: the echoes of the sanitized program, or only why it failed. -/
theorem transcript_simulate (b : Backends) (clock draw : Nat → Float) (readings : Nat) (code : Text)
    (o : Options) :
    let outcome := { b with simulator := SignalLab.simulator draw }.simulate clock readings code o
    (outcome.success = true ∧ ∃ elapsed, outcome.transcript =
        (Simulation.transcriptOf (Echo.shown (sanitize code)) elapsed).map .text) ∨
      (outcome.success = false ∧
        ∃ message, outcome.transcript = [.text (Program.errorLine message)]) := by
  intro outcome
  cases hrun : Simulation.run (Program.clockFrom clock readings) draw 0.0 (sanitize code) with
  | ok answer => exact .inl (transcript_simulate_of_run o hrun)
  | error fault =>
      obtain ⟨time, houtcome⟩ : ∃ time, outcome = .ofResult o.plotOutput time _ :=
        simulate_eq_ofResult b clock draw readings code o
      right
      rw [houtcome, hrun]
      exact ⟨Outcome.success_failed _ _ _, _, rfl⟩

/-- A simulated program is echoed without calls of denied names.  No echoed line has an exclamation
mark first exactly if each line of the program that has one first behind blanks has only spaces and
tabs before it. -/
theorem echoes_free_of_escapes_iff (b : Backends) (clock draw : Nat → Float) (readings : Nat)
    (code : Text) (o : Options) :
    let outcome := { b with simulator := SignalLab.simulator draw }.simulate clock readings code o
    let echoes := Echo.shown (sanitize code)
    ((outcome.success = true ∧ ∃ elapsed, outcome.transcript =
        (Simulation.transcriptOf echoes elapsed).map .text) ∨
      (outcome.success = false ∧
        ∃ message, outcome.transcript = [.text (Program.errorLine message)])) ∧
    (∀ line ∈ echoes, blockedCalls line = []) ∧
    ((∀ line ∈ echoes, line.head? ≠ some '!') ↔
      ∀ line ∈ splitAt '\n' code, (trimLeft line).head? = some '!' →
        (line.dropWhile isIndent).head? = some '!') := by
  intro outcome echoes
  refine ⟨transcript_simulate b clock draw readings code o, ?_, ?_⟩
  · intro line hline
    rw [blockedCalls_eq_nil_iff]
    intro name hname hcalls
    exact not_calls_sanitize hname code (Echo.calls_of_mem_shown hline hcalls)
  -- an echo has the mark first where the sanitizer leaves a line as it is
  · have hmarks : (∃ line ∈ echoes, line.head? = some '!') ↔
        ∃ line ∈ splitAt '\n' code, (trimLeft line).head? = some '!' ∧
          ¬ (line.dropWhile isIndent).head? = some '!' := by
      rw [Echo.exists_mem_shown_iff, any_startsWith_sanitize isGap_isBlank, List.any_eq_true]
      simp only [Bool.and_eq_true, Bool.not_eq_true', isShellEscape_eq_false_iff, startsWith,
        decide_eq_true_eq, trimLeft, ne_eq]
    constructor
    · intro hfree line hline hhead
      by_contra hgap
      obtain ⟨echo, hecho, hbang⟩ := hmarks.mpr ⟨line, hline, hhead, hgap⟩
      exact hfree echo hecho hbang
    · intro hgaps echo hecho hbang
      obtain ⟨line, hline, hhead, hgap⟩ := hmarks.mp ⟨echo, hecho, hbang⟩
      exact hgap (hgaps line hline hhead)

/-- A vertical tab in front of its exclamation mark brings a shell escape into the transcript. -/
theorem escape_behind_vertical_tab :
    let unavailable : (Nat → Float) → Text → Options → Reply :=
      fun _ _ _ => ⟨.error .noAddress, [], 0⟩
    let b : Backends := ⟨unavailable, unavailable, SignalLab.simulator fun _ => 0.0⟩
    let code : Text := "fs=1\nf=0\n\x0b!ls"
    let answer := (b.dispatch (fun _ => 0.0) code { plotOutput := false }).outcome
    answer.success = true ∧ .text ">> !ls" ∈ answer.transcript := by
  intro unavailable b code answer
  have hrate : Parameter.sampleRate code defaultSampleRate = .ok 1 := by rfl
  have htones : Parameter.frequencies code = .ok [0] := by rfl
  have hplain : Text.includes "fft(" code = false := by decide +kernel
  obtain ⟨o, ho⟩ := Simulation.exists_run_eq_ok (Program.clockFrom (fun _ => 0.0) 1)
    (fun _ => 0.0) 0.0 hrate htones hplain
  -- the sanitizer sees no shell escape, and the echo drops the tab
  have hclean : sanitize code = code := by decide +kernel
  have hshown : "!ls".toList ∈ Echo.shown code := by decide +kernel
  rw [← hclean] at ho
  obtain ⟨hsuccess, elapsed, htranscript⟩ :=
    transcript_simulate_of_run (b := b) { plotOutput := false } ho
  have hanswer : answer = b.simulate (fun _ => 0.0) 1 code { plotOutput := false } := by rfl
  rw [hanswer]
  refine ⟨hsuccess, ?_⟩
  rw [htranscript, hclean]
  exact List.mem_map_of_mem (Simulation.echoed_mem_transcriptOf hshown elapsed)

end Backends

end SignalLab
