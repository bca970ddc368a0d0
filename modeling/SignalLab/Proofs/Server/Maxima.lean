import SignalLab.Proofs.Backend.Degradation
import SignalLab.Proofs.Server.Answers

/-!
# Maxima — what a request can make the server launch

The caps of a request are within the maxima of the server (`Server.Caps.WithinMaxima`), and they are
all that a backend learns of its settings.  Milliseconds up to half a minute are a positive number
of seconds that rounding does not take beyond thirty (`Quantity.exists_seconds`), and the computing
time of a process is that number rounded up, so that it covers the time limit and stays within
thirty as well.

  * `Server.Caps.ofPayload_error_iff` — which settings cannot be read.
  * `Server.execute_withinMaxima` — what is launched, posted and run for any request.
-/

namespace SignalLab

open Fallible

/-! ## Launches -/

theorem Double.value?_thirty : value? 30.0 = some 30 := by
  have hthirty : (30.0 : Float) = ofNat 30 := by rfl
  rw [hthirty, value?_ofNat (by decide)]
  rfl

/-- A launch within the maxima of the server: a time limit of at most thirty seconds, as many whole
seconds of computing time that cover it, and at most 512 megabytes. -/
structure Launch.WithinMaxima (l : Launch) : Prop where
  positive : 0.0 < l.timeout
  timeout : l.timeout ≤ 30.0
  computing : 1 ≤ l.cpuSeconds ∧ l.cpuSeconds ≤ 30
  covers : l.timeout ≤ Double.ofNat l.cpuSeconds.toNat
  memory : ∃ m, l.memoryLimit = some m ∧ 1 ≤ m ∧ m ≤ 512

/-- A time limit between a millisecond and half a minute leads to a launch within the maxima. -/
theorem exists_launchOf {o : Options} {n m : Int} (htimeout : o.timeout = some n)
    (hn : 1 ≤ n ∧ n ≤ 30000) (hmemory : o.memoryLimit = some m) (hm : 1 ≤ m ∧ m ≤ 512)
    (binary code : Text) : ∃ seconds l, o.timeoutSeconds = .ok seconds ∧
      launchOf binary code o seconds = .ok l ∧ l.code = code ∧ l.WithinMaxima := by
  obtain ⟨x, v, hx, hv, hpos, hmost⟩ := Quantity.exists_seconds hn.1 hn.2
  have hseconds : o.timeoutSeconds = .ok x := by
    rw [Options.timeoutSeconds, Options.effectiveTimeout, htimeout]
    exact hx
  refine ⟨x, ⟨code, x, binary, max 1 ⌈v⌉, o.memoryLimit⟩, hseconds, ?_, rfl, ?_⟩
  · rw [launchOf, Double.toInteger_up hv]
    rfl
  have hceil : 1 ≤ ⌈v⌉ := Int.one_le_ceil_iff.mpr hpos
  have hupper : ⌈v⌉ ≤ 30 := Int.ceil_le.mpr (by exact_mod_cast hmost)
  obtain ⟨c, hc⟩ : ∃ c : Nat, ⌈v⌉ = c := ⟨⌈v⌉.toNat, by omega⟩
  -- the limit on computing is the least number of whole seconds that covers the time limit
  have hmax : max 1 ⌈v⌉ = c := by omega
  have hcover : Double.value? (Double.ofNat c) = some (c : ℚ) := Double.value?_ofNat (by omega)
  have hle : v ≤ c := by
    have hv' := Int.le_ceil v
    rw [hc] at hv'
    exact_mod_cast hv'
  exact {
    positive := (Double.lt_iff_value Double.value?_zero hv).mpr hpos
    timeout := (Double.le_iff_value hv Double.value?_thirty).mpr hmost
    computing := by
      dsimp only
      omega
    covers := by
      dsimp only
      rw [hmax, Int.toNat_natCast]
      exact (Double.le_iff_value hv hcover).mpr hle
    memory := ⟨m, hmemory, hm⟩ }

namespace Backends

variable {b : Backends} {clock : Nat → Float} {code : Text} {o : Options}

/-- A dispatch calls what the backend that the options name calls. -/
theorem calls_dispatch (b : Backends) (clock : Nat → Float) (code : Text) (o : Options) :
    (b.dispatch clock code o).calls =
      if o.nativeRuntime then (b.native (Program.clockFrom clock 1) code o).calls
      else if o.dockerRuntime then (b.docker (Program.clockFrom clock 1) code o).calls
      else [] := by
  by_cases hnative : o.nativeRuntime = true
  · have hchosen : b.chosen? o = some (.native, b.native) := by rw [chosen?, if_pos hnative]
    rw [if_pos hnative]
    exact (dispatch_of_reply hchosen rfl).1
  · rw [if_neg hnative]
    by_cases hdocker : o.dockerRuntime = true
    · have hchosen : b.chosen? o = some (.docker, b.docker) := by
        rw [chosen?, if_neg hnative, if_pos hdocker]
      rw [if_pos hdocker]
      exact (dispatch_of_reply hchosen rfl).1
    · have hchosen : b.chosen? o = none := by rw [chosen?, if_neg hnative, if_neg hdocker]
      rw [if_neg hdocker, dispatch, hchosen]

end Backends

/-! ## Settings -/

namespace Server

/-- The names of the limits that settings may ask for. -/
def limitNames : List Text := ["timeoutMs", "memoryLimitMb"]

/-- Settings that ask for a limit that cannot be converted to an integer. -/
def AsksNoInteger (config : Payload) : Prop :=
  ∃ settings key value fault, config = .object settings ∧ key ∈ limitNames ∧
    Keyed.find? key settings = some value ∧ value.isNull = false ∧ value.toInteger = .error fault

namespace Caps

theorem limitAt_error_iff {settings : Keyed Payload} {key : Text} {maximum standard : Int}
    {fault : Payload.Fault} : limitAt settings key maximum standard = .error fault ↔
      ∃ value, Keyed.find? key settings = some value ∧ value.isNull = false ∧
        value.toInteger = .error fault := by
  rw [limitAt]
  split
  · rename_i hnone
    simp [hnone]
  · rename_i hnull
    simp [hnull, Payload.isNull]
  · rename_i value hnotNull hvalue
    rw [map_error_iff, hvalue]
    have hnull : value.isNull = false := by
      cases value with
      | null => exact (hnotNull rfl).elim
      | _ => rfl
    simp [hnull]

theorem ofEntries_error_iff {settings : Keyed Payload} :
    (∃ fault, ofEntries settings = .error fault) ↔ ∃ key value fault, key ∈ limitNames ∧
      Keyed.find? key settings = some value ∧ value.isNull = false ∧
        value.toInteger = .error fault := by
  constructor
  · rintro ⟨fault, h⟩
    rcases bind_error_iff.mp h with h | ⟨timeout, -, h⟩
    · obtain ⟨value, hvalue⟩ := limitAt_error_iff.mp h
      exact ⟨_, value, fault, List.mem_cons_self, hvalue⟩
    rcases bind_error_iff.mp h with h | ⟨memoryLimit, -, h⟩
    · obtain ⟨value, hvalue⟩ := limitAt_error_iff.mp h
      exact ⟨_, value, fault, List.mem_cons_of_mem _ List.mem_cons_self, hvalue⟩
    · cases h
  · rintro ⟨key, value, fault, hkey, hvalue⟩
    cases h : ofEntries settings with
    | error fault => exact ⟨fault, rfl⟩
    | ok caps =>
        -- all limits were converted, the one under the key too
        obtain ⟨timeout, htimeout, h⟩ := bind_ok_iff.mp h
        obtain ⟨memoryLimit, hmemoryLimit, -⟩ := bind_ok_iff.mp h
        rcases List.mem_cons.mp hkey with rfl | hkey
        · cases htimeout.symm.trans (limitAt_error_iff.mpr ⟨value, hvalue⟩)
        · obtain rfl := List.mem_singleton.mp hkey
          cases hmemoryLimit.symm.trans (limitAt_error_iff.mpr ⟨value, hvalue⟩)

/-- Settings cannot be read exactly if a limit that they ask for is no integer. -/
theorem ofPayload_error_iff (settings : Keyed Payload) :
    (∃ fault, ofPayload (.object settings) = .error fault) ↔ AsksNoInteger (.object settings) := by
  have hasks : AsksNoInteger (.object settings) ↔ ∃ key value fault, key ∈ limitNames ∧
      Keyed.find? key settings = some value ∧ value.isNull = false ∧
        value.toInteger = .error fault := by
    constructor
    · rintro ⟨_, key, value, fault, ⟨⟩, h⟩
      exact ⟨key, value, fault, h⟩
    · rintro ⟨key, value, fault, h⟩
      exact ⟨settings, key, value, fault, rfl, h⟩
  rw [hasks, ← ofEntries_error_iff, ofPayload]
  cases settings with
  | nil =>
      refine iff_of_false ?_ ?_
      · rintro ⟨fault, h⟩
        cases h
      · rintro ⟨fault, h⟩
        cases h
  | cons entry rest => exact Iff.rfl

end Caps

/-! ## Requests -/

variable {host : Host} {binary address : Text} {launch : Launch → Except ExternalFailure OctaveRun}
  {post : Post → Except ExternalFailure Payload} {clock draw : Nat → Float}

theorem maxTime_settingsWithin {seconds : Float} {v : ℚ} (hv : Double.value? seconds = some v) :
    (settingsWithin seconds).maxTime ≤ 10.0 ∧ (settingsWithin seconds).maxTime ≤ seconds := by
  have hten : Double.value? 10.0 = some 10 := by
    have hten : (10.0 : Float) = Double.ofNat 10 := by rfl
    rw [hten, Double.value?_ofNat (by decide)]
    rfl
  show lesser 10.0 seconds ≤ 10.0 ∧ lesser 10.0 seconds ≤ seconds
  rw [lesser]
  split
  · rename_i hlt
    exact ⟨(Double.le_iff_value hv hten).mpr ((Double.lt_iff_value hv hten).mp hlt).le,
      (Double.le_iff_value hv hv).mpr le_rfl⟩
  · rename_i hge
    exact ⟨(Double.le_iff_value hten hten).mpr le_rfl,
      (Double.le_iff_value hten hv).mpr (not_lt.mp (mt (Double.lt_iff_value hv hten).mpr hge))⟩

/-- The options of a dispatch within caps ask for the limits of the caps and nothing else. -/
theorem resolve_options (host : Host) (caps : Caps) :
    let o := Options.resolve host caps.options
    o.timeout = some caps.timeout ∧ o.memoryLimit = some caps.memoryLimit ∧
      o.nativeRuntime = host.flag Options.nativeVariable ∧
      o.dockerRuntime = host.flag Options.dockerVariable :=
  ⟨rfl, rfl, rfl, rfl⟩

/-- The calls made for a program within caps: to the local process if it is turned on, or else to
the service if it is turned on and has an address. -/
inductive CallsWithin (host : Host) (address code : Text) (caps : Caps) : List Call → Prop
  | launched {l : Launch} (native : host.flag Options.nativeVariable = true)
      (program : l.code = code) (within : l.WithinMaxima) :
      CallsWithin host address code caps [.launch l]
  | posted {p : Post} (native : host.flag Options.nativeVariable = false)
      (docker : host.flag Options.dockerVariable = true)
      (found : serviceAddress? host address = some p.address) (program : p.code = code)
      (limit : p.limit = caps.timeout) : CallsWithin host address code caps [.post p]
  | unreached (native : host.flag Options.nativeVariable = false)
      (docker : host.flag Options.dockerVariable = true → serviceAddress? host address = none) :
      CallsWithin host address code caps []

section Dispatches

variable {caps : Caps} {code : Text} {simulator : (Nat → Float) → Text → Except Text Outcome × Nat}

/-- The time limit of a dispatch within caps is a double. -/
theorem exists_ofInt_of_withinMaxima (hcaps : caps.WithinMaxima) (host : Host) (n : Int)
    (hn : (Options.resolve host caps.options).timeout = some n) : ∃ x, Double.ofInt n = .ok x := by
  obtain ⟨hlower, hupper⟩ := hcaps.timeout
  obtain rfl : caps.timeout = n := Option.some.inj hn
  have hle : caps.timeout.natAbs ≤ 30000 := by
    have hbound : caps.timeout ≤ 30000 := hupper
    omega
  exact Double.exists_ofInt ((log2_mono hle).trans (by decide))

theorem callsWithin_serviceReply (hcaps : caps.WithinMaxima)
    (hnative : host.flag Options.nativeVariable = false)
    (hdocker : host.flag Options.dockerVariable = true) :
    CallsWithin host address code caps
      (serviceReply host address post clock code (Options.resolve host caps.options)).calls := by
  cases hfound : serviceAddress? host address with
  | none =>
      rw [serviceReply, hfound]
      exact .unreached hnative fun _ => hfound
  | some destination =>
      obtain ⟨p, hp, rfl, hcode, hlimit⟩ := exists_post (exists_ofInt_of_withinMaxima hcaps host)
        destination (serviceKey? host (Options.resolve host caps.options)) code
      rw [(serviceReply_of_post hfound hp post clock).1]
      exact .posted hnative hdocker hfound hcode hlimit

theorem callsWithin_dispatch (hcaps : caps.WithinMaxima) :
    CallsWithin host address code caps (Backends.dispatch ⟨nativeReply binary launch,
      serviceReply host address post, simulator⟩ clock code
        (Options.resolve host caps.options)).calls := by
  obtain ⟨htimeout, hmemory, hnative, hdocker⟩ := resolve_options host caps
  rw [Backends.calls_dispatch, hnative, hdocker]
  cases hflag : host.flag Options.nativeVariable with
  | true =>
      obtain ⟨seconds, l, hseconds, hl, hcode, hwithin⟩ :=
        exists_launchOf htimeout hcaps.timeout hmemory hcaps.memoryLimit binary code
      rw [if_pos rfl, (nativeReply_of_launch hseconds hl launch _).1]
      exact .launched hflag hcode hwithin
  | false =>
      rw [if_neg Bool.false_ne_true]
      by_cases hon : host.flag Options.dockerVariable = true
      · rw [if_pos hon]
        exact callsWithin_serviceReply hcaps hflag hon
      · rw [if_neg hon]
        exact .unreached hflag fun h => absurd h hon

/-- What is called within caps is called within the maxima. -/
theorem CallsWithin.withinMaxima {calls : List Call} (hcaps : caps.WithinMaxima)
    (h : CallsWithin host address code caps calls) :
    (∀ l, .launch l ∈ calls → l.WithinMaxima) ∧
      ∀ p, .post p ∈ calls → 1 ≤ p.limit ∧ p.limit ≤ 30000 := by
  cases h with
  | @launched l native program within =>
      refine ⟨fun l' hl' => ?_, fun p hp => ?_⟩
      · cases List.mem_singleton.mp hl'
        exact within
      · cases List.mem_singleton.mp hp
  | @posted p native docker found program limit =>
      refine ⟨fun l hl => ?_, fun p' hp' => ?_⟩
      · cases List.mem_singleton.mp hl
      · cases List.mem_singleton.mp hp'
        rw [limit]
        exact hcaps.timeout
  | unreached native docker =>
      refine ⟨fun l hl => ?_, fun p hp => ?_⟩
      · cases hl
      · cases hp

theorem exists_seconds_of_runWithin (hcaps : caps.WithinMaxima) (clock draw : Nat → Float)
    (code : Text) : ∃ seconds, Quantity.divIntegers caps.timeout 1000 = .ok seconds ∧
      (settingsWithin seconds).maxTime ≤ 10.0 ∧ (settingsWithin seconds).maxTime ≤ seconds ∧
      runWithin caps clock draw code =
        .ok ((Program.run (settingsWithin seconds) clock draw code).plotted caps.plotOutput) := by
  obtain ⟨seconds, v, hseconds, hv, -⟩ :=
    Quantity.exists_seconds hcaps.timeout.1 hcaps.timeout.2
  obtain ⟨hten, hle⟩ := maxTime_settingsWithin hv
  refine ⟨seconds, hseconds, hten, hle, ?_⟩
  rw [runWithin, hseconds]
  rfl

end Dispatches

/-- What a request launches, posts and runs is within the maxima of the server, whatever its
settings ask for. -/
structure ExecuteRequest.WithinMaxima (host : Host) (address : Text) (clock draw : Nat → Float)
    (r : ExecuteRequest) (a : Answer) : Prop where
  /-- A program that is launched is launched within the maxima. -/
  launches : ∀ l, .launch l ∈ a.calls → l.WithinMaxima
  /-- A program that is posted has half a minute at most. -/
  posts : ∀ p, .post p ∈ a.calls → 1 ≤ p.limit ∧ p.limit ≤ 30000
  /-- A program that goes through the backends is given to the one that is turned on. -/
  reaches : ∀ code caps, usable? r.code = some code → r.throughBackends = true →
    Caps.ofPayload r.config = .ok caps → CallsWithin host address code caps a.calls
  /-- A program that is run step by step has ten seconds at most, and what the caps leave it. -/
  runs : ∀ code caps, usable? r.code = some code → r.throughBackends = false →
    Caps.ofPayload r.config = .ok caps → ∃ seconds,
      Quantity.divIntegers caps.timeout 1000 = .ok seconds ∧
      (settingsWithin seconds).maxTime ≤ 10.0 ∧ (settingsWithin seconds).maxTime ≤ seconds ∧
      a = ⟨false, (Program.run (settingsWithin seconds) (Program.clockFrom clock 1) draw
        code).plotted caps.plotOutput, []⟩
  /-- A program with a limit that is no integer is not executed at all. -/
  refuses : AsksNoInteger r.config → a.calls = [] ∧ a.outcome.success = false

namespace ExecuteRequest.WithinMaxima

variable {r : ExecuteRequest}

/-- Nothing is launched for a request without a program. -/
theorem of_unusable (h : usable? r.code = none) :
    r.WithinMaxima host address clock draw rejection where
  launches l hl := by cases hl
  posts p hp := by cases hp
  reaches code caps hcode := by cases h.symm.trans hcode
  runs code caps hcode := by cases h.symm.trans hcode
  refuses _ := ⟨rfl, Outcome.success_failed _ _ _⟩

/-- Nothing is launched within limits that cannot be read. -/
theorem of_fault {fault : Payload.Fault} (h : Caps.ofPayload r.config = .error fault)
    (message : Text) : r.WithinMaxima host address clock draw (unhandled clock message) where
  launches l hl := by cases hl
  posts p hp := by cases hp
  reaches code caps hcode hthrough hcaps := by cases h.symm.trans hcaps
  runs code caps hcode hthrough hcaps := by cases h.symm.trans hcaps
  refuses _ := ⟨rfl, Outcome.success_failed _ _ _⟩

variable {code : Text} {caps : Caps} {result : Outcome × List Call}

theorem not_asksNoInteger_of_caps (hcaps : Caps.ofPayload r.config = .ok caps) :
    ¬ AsksNoInteger r.config := by
  rintro ⟨settings, key, value, fault, hconfig, hvalue⟩
  rw [hconfig] at hcaps
  obtain ⟨fault', hfault⟩ := (Caps.ofPayload_error_iff settings).mpr
    ⟨settings, key, value, fault, rfl, hvalue⟩
  cases hfault.symm.trans hcaps

/-- What the backends are made to do. -/
theorem of_reached (hcode : usable? r.code = some code) (hthrough : r.throughBackends = true)
    (hcaps : Caps.ofPayload r.config = .ok caps)
    (hcalls : CallsWithin host address code caps result.2) :
    r.WithinMaxima host address clock draw ⟨false, result.1, result.2⟩ where
  launches := (hcalls.withinMaxima (Caps.withinMaxima_of_ofPayload hcaps)).1
  posts := (hcalls.withinMaxima (Caps.withinMaxima_of_ofPayload hcaps)).2
  reaches code' caps' hcode' _ hcaps' := by
    cases hcode.symm.trans hcode'
    cases hcaps.symm.trans hcaps'
    exact hcalls
  runs code' caps' _ hdirect := by cases hthrough.symm.trans hdirect
  refuses hasks := absurd hasks (not_asksNoInteger_of_caps hcaps)

/-- What is run step by step. -/
theorem of_run (hcode : usable? r.code = some code) (hdirect : r.throughBackends = false)
    (hcaps : Caps.ofPayload r.config = .ok caps)
    (hresult : (runWithin caps (Program.clockFrom clock 1) draw code).map (fun o => (o, [])) =
      .ok result) : r.WithinMaxima host address clock draw ⟨false, result.1, result.2⟩ := by
  obtain ⟨seconds, hseconds, hten, hle, hrun⟩ := exists_seconds_of_runWithin
    (Caps.withinMaxima_of_ofPayload hcaps) (Program.clockFrom clock 1) draw code
  rw [hrun] at hresult
  cases hresult
  exact {
    launches := fun l hl => by cases hl
    posts := fun p hp => by cases hp
    reaches := fun code' caps' _ hthrough => by cases hdirect.symm.trans hthrough
    runs := fun code' caps' hcode' _ hcaps' => by
      cases hcode.symm.trans hcode'
      cases hcaps.symm.trans hcaps'
      exact ⟨seconds, hseconds, hten, hle, rfl⟩
    refuses := fun hasks => absurd hasks (not_asksNoInteger_of_caps hcaps) }

end ExecuteRequest.WithinMaxima

/-- Every answer keeps to the maxima. -/
theorem execute_withinMaxima (host : Host) (binary address : Text)
    (launch : Launch → Except ExternalFailure OctaveRun)
    (post : Post → Except ExternalFailure Payload)
    (simulator : (Nat → Float) → Text → Except Text Outcome × Nat) (clock draw : Nat → Float)
    (r : ExecuteRequest) :
    r.WithinMaxima host address clock draw (execute host
      ⟨nativeReply binary launch, serviceReply host address post, simulator⟩ clock draw r) := by
  cases hcode : usable? r.code with
  | none =>
      rw [execute, hcode]
      exact .of_unusable hcode
  | some code =>
      rcases execute_of_usable hcode with
        ⟨fault, hfault, ha⟩ | ⟨caps, result, hcaps, hresult, ha⟩
      · rw [ha]
        exact .of_fault hfault _
      rw [ha]
      cases hthrough : r.throughBackends with
      | true =>
          rw [executeWithin, hthrough, if_pos rfl] at hresult
          cases hresult
          exact .of_reached hcode hthrough hcaps
            (callsWithin_dispatch (Caps.withinMaxima_of_ofPayload hcaps))
      | false =>
          rw [executeWithin, hthrough, if_neg Bool.false_ne_true] at hresult
          exact .of_run hcode hthrough hcaps hresult

end Server

end SignalLab
