import SignalLab.Outcome.Basic
import SignalLab.Proofs.Fallible
import SignalLab.Proofs.Keyed

/-!
# Round trips — outcomes and the payloads they are written as

An outcome is written entry by entry, and some entries only if there is something to write.  Reading
looks every entry up under its key, so that it suffices to know what is found under each key of a
written outcome (`find?_entries`).

  * `Series.ofPayload_toPayload` — a series is read back as it was.
  * `Outcome.ofPayload_toPayload_of_dataset` — so is an outcome, unless its dataset is there and
    empty: an empty dataset is not written.
  * `Outcome.dataset_ne_nil_of_ofPayload` — no outcome that was read has an empty dataset, in
    whatever notation it was written.  Reading therefore gives a normal form.
-/

namespace SignalLab

open Fallible

/-! ## Series -/

/-- The label of a kind is read back. -/
theorem SeriesKind.ofPayload_label (kind : SeriesKind) :
    ofPayload (.text kind.label) = .ok kind := by
  cases kind <;> rfl

namespace Series

/-- A written series counts as true, so that no dataset loses one. -/
theorem truthy_toPayload (s : Series) : s.toPayload.truthy = true := rfl

/-- A series is read back, whatever its label. -/
theorem ofPayload_toPayload (s : Series) : ofPayload s.toPayload = .ok s := by
  obtain ⟨x, y, kind, label⟩ := s
  have hlabel : entryOr (labelEntry label) "label" "name" = label := by
    rw [labelEntry]
    cases label with
    | null => rfl
    | _ => rfl
  show (SeriesKind.ofPayload (.text kind.label) >>= fun kind =>
    Except.ok (Series.mk x y kind (entryOr (labelEntry label) "label" "name"))) = _
  rw [SeriesKind.ofPayload_label, hlabel]
  rfl

end Series

namespace Outcome

/-! ## Verdicts -/

/-- An outcome is a success exactly if it has no message. -/
theorem success_iff_errorMessage? (o : Outcome) : o.success = true ↔ o.errorMessage? = none := by
  rw [success, errorMessage?]
  cases o.verdict with
  | success => exact iff_of_true rfl rfl
  | failure message truthy =>
      refine iff_of_false (fun h => ?_) (fun h => ?_)
      · cases h
      · cases h

theorem success_failed (message : Text) (transcript : List Text) (elapsed : Option Float) :
    (failed message transcript elapsed).success = false := by
  rw [failed, success, Verdict.ofMessage]
  dsimp only
  split <;> rfl

/-! ## What is found in a written outcome -/

/-- The entries of a written outcome. -/
def entries (o : Outcome) : Keyed Payload :=
  [("success".toList, .bool o.success), ("output".toList, .list o.transcript)] ++
    dataEntry o.dataset ++ optionalEntry "errorMessage" o.errorMessage? ++
    optionalEntry "executionTimeMs" (o.elapsed.map .real)

/-- An optional entry is found if it is there. -/
theorem find?_optionalEntry_self (key : String) (p : Option Payload) :
    Keyed.find? key.toList (optionalEntry key p) = p := by
  cases p with
  | none => rfl
  | some p => exact if_pos rfl

/-- Nothing else is found in it. -/
theorem find?_optionalEntry_of_ne {key : String} {name : Text} (h : key.toList ≠ name)
    (p : Option Payload) : Keyed.find? name (optionalEntry key p) = none := by
  cases p with
  | none => rfl
  | some p => exact if_neg h

/-- Optional entries, one behind the other. -/
def optionalEntries (parts : List (String × Option Payload)) : Keyed Payload :=
  parts.flatMap fun part => optionalEntry part.1 part.2

variable {parts : List (String × Option Payload)}

/-- Nothing is found under a name that no optional entry has. -/
theorem find?_optionalEntries_of_ne {name : Text} (h : ∀ part ∈ parts, part.1.toList ≠ name) :
    Keyed.find? name (optionalEntries parts) = none := by
  induction parts with
  | nil => rfl
  | cons part parts ih =>
      rw [optionalEntries, List.flatMap_cons, Keyed.find?_append,
        find?_optionalEntry_of_ne (h part List.mem_cons_self), Option.none_or]
      exact ih fun other hother => h other (List.mem_cons_of_mem _ hother)

/-- Each optional entry is found under its key, if no other one has the same. -/
theorem find?_optionalEntries (hkeys : (parts.map fun part => part.1.toList).Nodup)
    {part : String × Option Payload} (h : part ∈ parts) :
    Keyed.find? part.1.toList (optionalEntries parts) = part.2 := by
  induction parts with
  | nil => cases h
  | cons first parts ih =>
      rw [List.map_cons, List.nodup_cons] at hkeys
      have hfirst : ∀ other ∈ parts, other.1.toList ≠ first.1.toList :=
        fun other hother heq => hkeys.1 (heq ▸ List.mem_map_of_mem hother)
      rw [optionalEntries, List.flatMap_cons, Keyed.find?_append]
      rcases List.mem_cons.mp h with rfl | hmem
      · rw [find?_optionalEntry_self]
        show part.2.or (Keyed.find? part.1.toList (optionalEntries parts)) = part.2
        rw [find?_optionalEntries_of_ne hfirst, Option.or_none]
      · rw [find?_optionalEntry_of_ne (hfirst part hmem).symm, Option.none_or]
        exact ih hkeys.2 hmem

/-- The written dataset, if it has any series. -/
theorem dataEntry_eq (dataset : Option Dataset) :
    dataEntry dataset = optionalEntry "data" (dataset.bind fun entries =>
      if entries.isEmpty then none else some (datasetPayload entries)) := by
  rcases dataset with _ | _ | ⟨series, rest⟩ <;> rfl

variable (o : Outcome)

/-- What is written of an outcome if it is there. -/
def optionalParts : List (String × Option Payload) :=
  [("data", o.dataset.bind fun entries =>
      if entries.isEmpty then none else some (datasetPayload entries)),
    ("errorMessage", o.errorMessage?), ("executionTimeMs", o.elapsed.map .real)]

theorem entries_eq :
    o.entries = [("success".toList, .bool o.success), ("output".toList, .list o.transcript)] ++
      optionalEntries o.optionalParts := by
  rw [entries, dataEntry_eq, List.append_assoc, List.append_assoc]
  show _ = _ ++ (_ ++ (_ ++ (_ ++ [])))
  rw [List.append_nil]

/-- Behind verdict and transcript an outcome is looked up in its optional entries. -/
theorem find?_entries {name : Text} (hsuccess : "success".toList ≠ name)
    (houtput : "output".toList ≠ name) :
    Keyed.find? name o.entries = Keyed.find? name (optionalEntries o.optionalParts) := by
  rw [entries_eq, List.cons_append, Keyed.find?, if_neg hsuccess, List.cons_append, Keyed.find?,
    if_neg houtput, List.nil_append]

/-- The optional entries of an outcome are found under their keys. -/
theorem find?_entries_of_mem {key : String} {p : Option Payload} (h : (key, p) ∈ o.optionalParts) :
    Keyed.find? key.toList o.entries = p := by
  have hkey : key ∈ o.optionalParts.map Prod.fst := List.mem_map_of_mem h
  have hother : ∀ key ∈ o.optionalParts.map Prod.fst,
      "success".toList ≠ key.toList ∧ "output".toList ≠ key.toList := by
    show ∀ key ∈ ["data", "errorMessage", "executionTimeMs"], _
    decide
  have hkeys : (o.optionalParts.map fun part => part.1.toList).Nodup := by
    show ["data".toList, "errorMessage".toList, "executionTimeMs".toList].Nodup
    decide
  obtain ⟨hsuccess, houtput⟩ := hother key hkey
  rw [find?_entries o hsuccess houtput]
  exact find?_optionalEntries hkeys h

theorem find?_entries_data :
    Keyed.find? "data" o.entries = o.dataset.bind fun entries =>
      if entries.isEmpty then none else some (datasetPayload entries) :=
  find?_entries_of_mem o List.mem_cons_self

theorem find?_entries_errorMessage : Keyed.find? "errorMessage" o.entries = o.errorMessage? :=
  find?_entries_of_mem o (List.mem_cons_of_mem _ List.mem_cons_self)

theorem find?_entries_executionTimeMs :
    Keyed.find? "executionTimeMs" o.entries = o.elapsed.map .real :=
  find?_entries_of_mem o (List.mem_cons_of_mem _ (List.mem_cons_of_mem _ List.mem_cons_self))

/-- There are no other keys than the five. -/
theorem find?_entries_of_ne {name : Text} (h : name ∉ ["success".toList, "output".toList,
    "data".toList, "errorMessage".toList, "executionTimeMs".toList]) :
    Keyed.find? name o.entries = none := by
  simp only [List.mem_cons, List.not_mem_nil, or_false, not_or] at h
  obtain ⟨hsuccess, houtput, hdata, hmessage, htime⟩ := h
  rw [find?_entries o (Ne.symm hsuccess) (Ne.symm houtput)]
  refine find?_optionalEntries_of_ne fun part hpart => ?_
  rcases List.mem_cons.mp hpart with rfl | hpart
  · exact Ne.symm hdata
  rcases List.mem_cons.mp hpart with rfl | hpart
  · exact Ne.symm hmessage
  obtain rfl := List.mem_singleton.mp hpart
  exact Ne.symm htime

/-- Whether an outcome has any series. -/
def HasSeries : Prop :=
  ∃ dataset, o.dataset = some dataset ∧ dataset ≠ []

/-- Without a dataset there are no series. -/
theorem not_hasSeries_of_dataset {o : Outcome} (h : o.dataset = none) : ¬o.HasSeries := by
  rintro ⟨dataset, hdataset, -⟩
  cases h.symm.trans hdataset

/-- Series are written just if there are any. -/
theorem find?_entries_data_eq_none_iff :
    Keyed.find? "data" o.entries = none ↔ ¬o.HasSeries := by
  rw [find?_entries_data, HasSeries]
  rcases o.dataset with _ | _ | ⟨series, rest⟩ <;> simp

/-! ## Reading what was written -/

/-- The series of a written dataset are read back, all of them and in order. -/
theorem datasetOfEntries_written (dataset : Dataset) :
    datasetOfEntries (dataset.map fun entry => (entry.1, entry.2.toPayload)) = .ok dataset := by
  have hall : (dataset.map fun entry => (entry.1, entry.2.toPayload)).filter
      (fun entry => entry.2.truthy) = dataset.map fun entry => (entry.1, entry.2.toPayload) := by
    refine List.filter_eq_self.mpr ?_
    intro written h
    obtain ⟨entry, -, rfl⟩ := List.mem_map.mp h
    exact Series.truthy_toPayload entry.2
  rw [datasetOfEntries, hall]
  clear hall
  induction dataset with
  | nil => rfl
  | cons entry rest ih =>
      rw [List.map_cons, List.mapM_cons, Series.ofPayload_toPayload, ih]
      rfl

/-- The dataset is read back, unless it is there and empty. -/
theorem datasetOf_entries {o : Outcome} (h : o.dataset ≠ some []) :
    datasetOf o.entries = .ok o.dataset := by
  rw [datasetOf, find?_entries_data]
  cases hdataset : o.dataset with
  | none => rfl
  | some dataset =>
      cases dataset with
      | nil => exact absurd hdataset h
      | cons entry rest =>
          show (datasetOfEntries ((entry :: rest).map _) >>= _) = _
          rw [datasetOfEntries_written]
          rfl

/-- The time is read back. -/
theorem elapsedOf_entries (o : Outcome) :
    elapsedOf (Series.entryOr o.entries "executionTimeMs" "executionTime") = .ok o.elapsed := by
  -- the older key is never written
  rw [Series.entryOr, find?_entries_executionTimeMs, find?_entries_of_ne _ (by decide),
    Option.or_none]
  cases o.elapsed with
  | none => rfl
  | some elapsed => rfl

/-- A message is read back. -/
theorem messageOf_entries {o : Outcome} {message : Payload} (h : o.errorMessage? = some message)
    (htruthy : message.truthy = true) : messageOf o.entries = message := by
  show (((Keyed.find? "errorMessage" o.entries).bind Payload.ifTruthy).or _).getD _ = _
  rw [find?_entries_errorMessage, h, Option.bind_some, Payload.ifTruthy, if_pos htruthy]
  rfl

/-- The verdict is read back: a failure has a message, and one that counts as true. -/
theorem verdict_entries (o : Outcome) :
    (if o.success then Verdict.success else .ofMessage (messageOf o.entries)) = o.verdict := by
  cases h : o.verdict with
  | success => rw [success, h, Verdict.isSuccess, if_pos rfl]
  | failure message htruthy =>
      have hmessage : o.errorMessage? = some message := by
        rw [errorMessage?, h]
        rfl
      -- the message counts as true, so that neither default takes its place
      rw [success, h, Verdict.isSuccess, if_neg Bool.false_ne_true,
        messageOf_entries hmessage htruthy]
      exact dif_pos htruthy

/-- An outcome is read back, unless it has a dataset and no series in it. -/
theorem ofPayload_toPayload_of_dataset {o : Outcome} (h : o.dataset ≠ some []) :
    ofPayload o.toPayload = .ok o := by
  show (datasetOf o.entries >>= fun dataset =>
    elapsedOf (Series.entryOr o.entries "executionTimeMs" "executionTime") >>= fun elapsed =>
      Except.ok (Outcome.mk (if o.success then .success else .ofMessage (messageOf o.entries))
        o.transcript dataset elapsed)) = _
  rw [datasetOf_entries h, elapsedOf_entries, verdict_entries]
  rfl

/-! ## Normal forms -/

/-- A dataset that is read has a series, whatever it is read from. -/
theorem dataset_ne_nil_of_datasetOf {entries : Keyed Payload} {dataset : Option Dataset}
    (h : datasetOf entries = .ok dataset) : dataset ≠ some [] := by
  rw [datasetOf] at h
  split at h
  · cases h
    exact Option.some_ne_none _ |>.symm
  · obtain ⟨written, -, h⟩ := bind_ok_iff.mp h
    obtain ⟨series, -, h⟩ := bind_ok_iff.mp h
    cases h
    cases series with
    | nil => exact Option.some_ne_none _ |>.symm
    | cons entry rest =>
        intro hnil
        cases hnil

/-- No outcome is read with an empty dataset: it has one with series, or none. -/
theorem dataset_ne_nil_of_ofPayload {p : Payload} {o : Outcome} (h : ofPayload p = .ok o) :
    o.dataset ≠ some [] := by
  obtain ⟨entries, -, h⟩ := bind_ok_iff.mp h
  obtain ⟨dataset, hdataset, h⟩ := bind_ok_iff.mp h
  obtain ⟨transcript, -, h⟩ := bind_ok_iff.mp h
  obtain ⟨elapsed, -, h⟩ := bind_ok_iff.mp h
  cases h
  exact dataset_ne_nil_of_datasetOf hdataset

/-- Writing and reading are inverse: an outcome whose dataset is not an empty one is read back as it
was, and an outcome that was read, in whatever notation, is in the form that is read back. -/
theorem payload_round_trip :
    (∀ o : Outcome, o.dataset ≠ some [] → ofPayload o.toPayload = .ok o) ∧
    ∀ (p : Payload) (o : Outcome), ofPayload p = .ok o → ofPayload o.toPayload = .ok o := by
  constructor
  · intro o h
    exact ofPayload_toPayload_of_dataset h
  · intro p o h
    exact ofPayload_toPayload_of_dataset (dataset_ne_nil_of_ofPayload h)

/-- A failure with plots and what is no number, and a payload in the notation of plotting services
with the older keys and an empty series. -/
theorem payload_round_trip_of_failures :
    let spectrum : Series :=
      ⟨[.integer 1, .text ['a']], [.real Double.nan, .integer 2], .marker, .text "F"⟩
    let o : Outcome :=
      ⟨.failure (.text "boom") rfl, [.text ">> run"], some [("frequency", spectrum)], some 2.5⟩
    let p : Payload := .object [("success", .integer 0), ("output", .list [.text ">> run"]),
      ("data", .object [("time", .object []),
        ("frequency", .object [("x", .list [.integer 1, .text ['a']]),
          ("y", .list [.real Double.nan, .integer 2]), ("kind", .null),
          ("mode", .text "markers"), ("name", .text "F")])]),
      ("errorMessage", .null), ("error", .text "boom"), ("executionTime", .real 2.5)]
    (o.dataset ≠ some [] ∧ ofPayload o.toPayload = .ok o) ∧
      ofPayload p = .ok o ∧ ofPayload o.toPayload = .ok o := by
  intro spectrum o p
  have hdataset : o.dataset ≠ some [] := by
    intro h
    cases h
  have hread : ofPayload p = .ok o := by rfl
  exact ⟨⟨hdataset, payload_round_trip.1 o hdataset⟩, hread, payload_round_trip.2 p o hread⟩

end Outcome

end SignalLab
