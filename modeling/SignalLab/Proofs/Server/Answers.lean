import SignalLab.Proofs.Backend.Replay
import SignalLab.Proofs.Number.Rounding
import SignalLab.Proofs.Outcome.RoundTrip
import SignalLab.Server.Handlers

/-!
# Answers — what a client can rely on

Whatever a program, its settings, the host and the backends come to, the body of the answer is a
written outcome, so its shape is that of outcomes (`Outcome.isBody_entries`).  Once the settings of a
request can be read nothing comes to a fault any more: the time limit is at most half a minute, and
its seconds are a double (`Server.executeWithin_isOk`).  Settings that cannot be read are reported in
the body.

  * `Server.execute_of_usable` — the two ways in which a program that is not blank is answered.
  * `Server.answers_promised` — what is promised of every answer.
-/

namespace SignalLab

open Fallible
open List (append_ne_nil_of_left_ne_nil)

/-! ## Bodies -/

/-- The entries of a body with a verdict, its output, and a message that counts as true exactly if
the verdict is a failure. -/
structure IsBody (entries : Keyed Payload) (success : Bool) : Prop where
  verdict : Keyed.find? "success" entries = some (.bool success)
  output : ∃ lines, Keyed.find? "output" entries = some (.list lines)
  silent_iff : Keyed.find? "errorMessage" entries = none ↔ success = true
  message_iff : (∃ message, Keyed.find? "errorMessage" entries = some message ∧
    message.truthy = true) ↔ success = false

namespace Outcome

/-- A message counts as true, and only failures have one. -/
theorem errorMessage?_truthy_iff (o : Outcome) :
    (∃ message, o.errorMessage? = some message ∧ message.truthy = true) ↔ o.success = false := by
  rw [errorMessage?, success]
  cases o.verdict with
  | success =>
      constructor
      · rintro ⟨message, h, -⟩
        cases h
      · intro h
        cases h
  | failure message truthy => exact iff_of_true ⟨message, rfl, truthy⟩ rfl

/-- An outcome is written with all the keys of an answer. -/
theorem isBody_entries (o : Outcome) : IsBody o.entries o.success where
  verdict := rfl
  output := ⟨o.transcript, rfl⟩
  silent_iff := by rw [find?_entries_errorMessage, success_iff_errorMessage?]
  message_iff := by
    simp only [find?_entries_errorMessage]
    exact o.errorMessage?_truthy_iff

/-- A failure with a message carries it. -/
theorem errorMessage?_failed {message : Text} (h : message ≠ []) (transcript : List Text)
    (elapsed : Option Float) :
    (failed message transcript elapsed).errorMessage? = some (.text message) := by
  have htruthy : (Payload.text message).truthy = true := by
    cases message with
    | nil => exact absurd rfl h
    | cons c cs => rfl
  rw [failed, errorMessage?, Verdict.ofMessage, dif_pos htruthy]
  rfl

end Outcome

/-! ## Seconds -/

/-- Milliseconds up to half a minute, in seconds. -/
theorem Quantity.exists_seconds {n : Int} (hlower : 1 ≤ n) (hupper : n ≤ 30000) :
    ∃ x v, divIntegers n 1000 = .ok x ∧ Double.value? x = some v ∧ 0 < v ∧ v ≤ 30 := by
  obtain ⟨k, rfl⟩ : ∃ k : Nat, n = k := ⟨n.toNat, by omega⟩
  have hlog : k.log2 ≤ Nat.log2 1000 + 1020 :=
    (log2_mono (show k ≤ 30000 by omega)).trans (by decide)
  obtain ⟨x, v, hx, hv, hround⟩ := exists_divIntegers (by decide) hlog
  have hleast : (1 : ℚ) ≤ k := by exact_mod_cast hlower
  have hmost : (k : ℚ) ≤ 30000 := by exact_mod_cast hupper
  refine ⟨x, v, hx, hv, ?_, ?_⟩
  · -- a double below a thousandth bounds the quotient from below
    have hfits : Double.Fits (2 ^ (-10 : Int)) := ⟨1, -10, by decide, by decide, by norm_num⟩
    have hlow : (2 : ℚ) ^ (-10 : Int) ≤ v := by
      refine hround.ge _ hfits ?_
      norm_num
      linarith
    exact (zpow_pos two_pos _).trans_le hlow
  · have hfits : Double.Fits ((30 : Nat) : ℚ) := Double.fits_natCast (by decide)
    have hhigh : v ≤ ((30 : Nat) : ℚ) := by
      refine hround.le _ hfits ?_
      norm_num
      linarith
    exact_mod_cast hhigh

/-! ## Faults -/

theorem Text.ofString_ne_nil {s : String} (h : s ≠ "") : s.toList ≠ [] :=
  mt String.toList_eq_nil_iff.mp h

/-- No fault is without words. -/
theorem Fault.message_ne_nil (fault : Fault) : fault.message ≠ [] := by
  cases fault <;> exact Text.ofString_ne_nil (by simp)

/-- Neither is one of the text of an integer. -/
theorem Text.IntegerFault.message_ne_nil (fault : IntegerFault) : fault.message ≠ [] := by
  cases fault with
  | notAnInteger s => exact append_ne_nil_of_left_ne_nil (ofString_ne_nil (by simp)) _
  | tooManyDigits count =>
      iterate 4 refine append_ne_nil_of_left_ne_nil ?_ _
      exact ofString_ne_nil (by simp)

/-- Every fault of a payload has something to say. -/
theorem Payload.Fault.message_ne_nil (fault : Payload.Fault) : fault.message ≠ [] := by
  cases fault with
  | missingMember kind member => exact List.cons_ne_nil _ _
  | notIterable kind => exact List.cons_ne_nil _ _
  | notReal kind | notInteger kind | unknownSeriesKind shown | unknownOption name =>
      refine append_ne_nil_of_left_ne_nil (append_ne_nil_of_left_ne_nil ?_ _) _
      exact Text.ofString_ne_nil (by simp)
  | notDouble s => exact append_ne_nil_of_left_ne_nil (Text.ofString_ne_nil (by simp)) _
  | integerText fault => exact fault.message_ne_nil
  | arithmetic fault => exact fault.message_ne_nil
  | successWithMessage => exact Text.ofString_ne_nil (by simp)

namespace Server

/-! ## Settings -/

namespace Caps

/-- A limit is at least one and at most its maximum, whatever was asked for. -/
theorem limitAt_bounds {settings : Keyed Payload} {key : Text} {maximum standard limit : Int}
    (hstandard : 1 ≤ standard ∧ standard ≤ maximum)
    (h : limitAt settings key maximum standard = .ok limit) : 1 ≤ limit ∧ limit ≤ maximum := by
  rw [limitAt] at h
  split at h
  · cases h
    exact hstandard
  · cases h
    exact hstandard
  · obtain ⟨value, -, rfl⟩ := map_ok_iff.mp h
    rw [clamp]
    omega

/-- The caps of a request are one at least, and at most what the server allows. -/
structure WithinMaxima (caps : Caps) : Prop where
  timeout : 1 ≤ caps.timeout ∧ caps.timeout ≤ maxTimeout
  memoryLimit : 1 ≤ caps.memoryLimit ∧ caps.memoryLimit ≤ maxMemoryLimit

/-- Hence the limits of a request are within the maxima. -/
theorem withinMaxima_of_ofPayload {config : Payload} {caps : Caps}
    (h : ofPayload config = .ok caps) : caps.WithinMaxima := by
  have hstandard : standard.WithinMaxima := ⟨by decide, by decide⟩
  rw [ofPayload] at h
  split at h
  · obtain ⟨settings, -, h⟩ := bind_ok_iff.mp h
    obtain ⟨timeout, htimeout, h⟩ := bind_ok_iff.mp h
    obtain ⟨memoryLimit, hmemoryLimit, h⟩ := bind_ok_iff.mp h
    cases h
    exact ⟨limitAt_bounds hstandard.timeout htimeout, limitAt_bounds (by decide) hmemoryLimit⟩
  · cases h
    exact hstandard

end Caps

/-- Whether settings ask for no plot: with a value that counts as false and is not null. -/
def DeclinesPlot (config : Payload) : Prop :=
  ∃ settings value, config = .object settings ∧ Keyed.find? "plotOutput" settings = some value ∧
    value.isNull = false ∧ value.truthy = false

/-- A request can decline plots. -/
theorem Caps.plotOutput_of_declined {config : Payload} {caps : Caps} (hplot : DeclinesPlot config)
    (h : ofPayload config = .ok caps) : caps.plotOutput = false := by
  obtain ⟨settings, value, rfl, hvalue, hnull, hfalse⟩ := hplot
  -- settings with an entry count as true, so that they are read
  have htruthy : (Payload.object settings).truthy = true := by
    cases settings with
    | nil => cases hvalue
    | cons entry rest => rfl
  have hplotAt : plotAt settings = false := by
    rw [plotAt, hvalue]
    cases value with
    | null => cases hnull
    | _ => exact hfalse
  rw [ofPayload, if_pos htruthy] at h
  obtain ⟨settings', hsettings, h⟩ := bind_ok_iff.mp h
  cases hsettings
  obtain ⟨timeout, -, h⟩ := bind_ok_iff.mp h
  obtain ⟨memoryLimit, -, h⟩ := bind_ok_iff.mp h
  cases h
  exact hplotAt

/-! ## Executions -/

variable {host : Host} {backends : Backends} {clock draw : Nat → Float}

/-- Within limits from a request a run has a result. -/
theorem runWithin_isOk {config : Payload} {caps : Caps} (h : Caps.ofPayload config = .ok caps)
    (code : Text) : ∃ o, runWithin caps clock draw code = .ok o := by
  obtain ⟨hlower, hupper⟩ := (Caps.withinMaxima_of_ofPayload h).timeout
  obtain ⟨seconds, v, hseconds, -⟩ := Quantity.exists_seconds hlower hupper
  rw [runWithin, hseconds]
  exact ⟨_, rfl⟩

/-- Nothing comes to a fault behind settings that can be read. -/
theorem executeWithin_isOk {config : Payload} {caps : Caps}
    (h : Caps.ofPayload config = .ok caps) (throughBackends : Bool) (code : Text) :
    ∃ result, executeWithin host backends clock draw throughBackends caps code = .ok result := by
  rw [executeWithin]
  split
  · exact ⟨_, rfl⟩
  · obtain ⟨o, ho⟩ := runWithin_isOk h code
    rw [ho]
    exact ⟨_, rfl⟩

/-- Where plots are declined no answer has a dataset. -/
theorem dataset_executeWithin {throughBackends : Bool} {caps : Caps} {code : Text}
    {result : Outcome × List Call} (hplot : caps.plotOutput = false)
    (h : executeWithin host backends clock draw throughBackends caps code = .ok result) :
    result.1.dataset = none := by
  rw [executeWithin] at h
  split at h
  · cases h
    exact backends.dataset_dispatch clock code hplot
  · obtain ⟨o, ho, rfl⟩ := map_ok_iff.mp h
    obtain ⟨seconds, -, hrun⟩ := bind_ok_iff.mp ho
    cases hrun
    rw [hplot]
    rfl

/-! ## Requests -/

/-- There is nothing to run in a code that is missing or blank. -/
theorem usable?_eq_none_iff (code : Option Text) :
    usable? code = none ↔ ∀ s, code = some s → Text.isBlankText s = true := by
  cases code with
  | none => simp [usable?]
  | some s => simp [usable?, Option.filter]

/-- A program that is not blank is executed within its limits; if these cannot be read, the answer
is that they cannot. -/
theorem execute_of_usable {r : ExecuteRequest} {code : Text} (h : usable? r.code = some code) :
    (∃ fault, Caps.ofPayload r.config = .error fault ∧
      execute host backends clock draw r = unhandled clock fault.message) ∨
    ∃ caps result, Caps.ofPayload r.config = .ok caps ∧
      executeWithin host backends (Program.clockFrom clock 1) draw r.throughBackends caps code =
        .ok result ∧
      execute host backends clock draw r = ⟨false, result.1, result.2⟩ := by
  rw [execute, h]
  dsimp only
  cases hcaps : Caps.ofPayload r.config with
  | error fault => exact .inl ⟨fault, rfl, rfl⟩
  | ok caps =>
      obtain ⟨result, hresult⟩ : ∃ result, executeWithin host backends
          (Program.clockFrom clock 1) draw r.throughBackends caps code = .ok result :=
        executeWithin_isOk hcaps r.throughBackends code
      refine .inr ⟨caps, result, rfl, hresult, ?_⟩
      dsimp only
      rw [hresult]

/-- The handler refuses exactly the requests without anything to run. -/
theorem rejected_execute_iff (r : ExecuteRequest) :
    (execute host backends clock draw r).rejected = true ↔ usable? r.code = none := by
  cases h : usable? r.code with
  | none =>
      rw [execute, h]
      exact iff_of_true rfl rfl
  | some code =>
      refine iff_of_false (fun hrejected => ?_) (fun hnone => by cases hnone)
      obtain ⟨fault, -, ha⟩ | ⟨caps, result, -, -, ha⟩ := execute_of_usable h
      · rw [ha] at hrejected
        cases hrejected
      · rw [ha] at hrejected
        cases hrejected

/-- So does the handler of demonstrations. -/
theorem rejected_executeLab_iff (code : Option Text) :
    (executeLab clock draw code).rejected = true ↔ usable? code = none := by
  rw [executeLab]
  cases usable? code with
  | none => exact iff_of_true rfl rfl
  | some code =>
      refine iff_of_false (fun h => ?_) (fun h => ?_)
      · cases h
      · cases h

/-- An answer where plots are declined has no dataset, not even after a fault. -/
theorem dataset_execute {r : ExecuteRequest} (hplot : DeclinesPlot r.config) :
    (execute host backends clock draw r).outcome.dataset = none := by
  cases h : usable? r.code with
  | none =>
      rw [execute, h]
      rfl
  | some code =>
      rcases execute_of_usable h with ⟨fault, -, ha⟩ | ⟨caps, result, hcaps, hresult, ha⟩
      · rw [ha]
        rfl
      · rw [ha]
        exact dataset_executeWithin (Caps.plotOutput_of_declined hplot hcaps) hresult

/-- A fault of the settings is reported in the answer. -/
theorem errorMessage?_execute {r : ExecuteRequest} {fault : Payload.Fault}
    (hfault : Caps.ofPayload r.config = .error fault)
    (haccepted : (execute host backends clock draw r).rejected = false) :
    (execute host backends clock draw r).outcome.errorMessage? = some (.text fault.message) := by
  cases h : usable? r.code with
  | none =>
      rw [(rejected_execute_iff r).mpr h] at haccepted
      cases haccepted
  | some code =>
      rw [execute, h]
      dsimp only
      rw [hfault]
      exact Outcome.errorMessage?_failed fault.message_ne_nil _ _

/-! ## Promises -/

/-- What is promised of every answer to a program: it is a rejection just if there is no program,
and it has a body. -/
structure Answer.Promised (a : Answer) (code : Option Text) : Prop where
  rejected_iff : a.rejected = true ↔ ∀ s, code = some s → Text.isBlankText s = true
  body : ∃ entries success, a.outcome.toPayload = .object entries ∧ IsBody entries success

/-- What is promised of an answer to a program with settings, beyond that. -/
structure ExecuteRequest.Promised (r : ExecuteRequest) (a : Answer) : Prop
    extends Answer.Promised a r.code where
  /-- A plot that is declined is not in the body. -/
  plot : DeclinesPlot r.config → ∃ entries, a.outcome.toPayload = .object entries ∧
    Keyed.find? "data" entries = none
  /-- Settings that cannot be read are the message of the body. -/
  fault : ∀ fault, Caps.ofPayload r.config = .error fault → a.rejected = false →
    ∃ entries, a.outcome.toPayload = .object entries ∧
      Keyed.find? "errorMessage" entries = some (.text fault.message)

theorem Answer.promised_of_rejected_iff {a : Answer} {code : Option Text}
    (h : a.rejected = true ↔ usable? code = none) : a.Promised code where
  rejected_iff := h.trans (usable?_eq_none_iff code)
  body := ⟨a.outcome.entries, a.outcome.success, rfl, a.outcome.isBody_entries⟩

/-- Every answer to a program keeps its promises. -/
theorem answers_promised (host : Host) (backends : Backends) (clock draw : Nat → Float) :
    (∀ r : ExecuteRequest, r.Promised (execute host backends clock draw r)) ∧
    ∀ code, (executeLab clock draw code).Promised code := by
  refine ⟨fun r => ?_, fun code => Answer.promised_of_rejected_iff (rejected_executeLab_iff code)⟩
  exact {
    toPromised := Answer.promised_of_rejected_iff (rejected_execute_iff r)
    plot := fun hplot => ⟨Outcome.entries _, rfl, (Outcome.find?_entries_data_eq_none_iff _).mpr
      (Outcome.not_hasSeries_of_dataset (dataset_execute hplot))⟩
    fault := fun fault hfault haccepted => ⟨Outcome.entries _, rfl,
      (Outcome.find?_entries_errorMessage _).trans (errorMessage?_execute hfault haccepted)⟩ }

end Server

end SignalLab
