import HttpScript.Proofs.Capture
import HttpScript.Query.Evaluate
import Mathlib

/-!
# What the captures of a reply report

Every capture is reported by one record, in the order of the captures: that its query failed, the
value that was saved, or that there was none. The value is looked up by name among all that was
saved so far. So the record tells what the capture itself did, unless it yielded nothing where one
before it had yielded a value under the same name: then that value is reported again.
-/
namespace HttpScript

namespace Capture

variable (evaluate : Evaluator) (log : Logger) (document : Json)

/-- The record of a capture whose query ended like this and has this value to show. -/
def report (c : Field) (ending : QueryEnd) (value : Option String) : Record :=
  match ending, value with
  | .failed message, _ => failed log c message
  | _, some value =>
    log.record .info "capture.saved" [("name", .text c.name), ("value", .text value)]
  | _, none => log.record .debug "capture.empty" [("name", .text c.name), ("expr", .text c.value)]

/-- The record that tells what a capture itself did: with the last value that it yielded. -/
def ownReport (c : Field) : Record :=
  let results := evaluate c.value document
  report log c results.ending (results.values.getLast?.map Json.asVariable)

/-- The capture neither fails nor yields a value. -/
def IsSilent (c : Field) : Prop :=
  (evaluate c.value document).values = [] ∧
    ∀ message, (evaluate c.value document).ending ≠ .failed message

/-- What two captures report does not get mixed up: when the second is silent and has the name of
the first, the first yields nothing. -/
def Apart (a c : Field) : Prop :=
  a.name = c.name → IsSilent evaluate document c → (evaluate a.value document).values = []

theorem record_step (soFar : Captured) (c : Field) :
    (step evaluate log document soFar c).records = soFar.records ++
      [report log c (evaluate c.value document).ending
        (Entries.get? c.name (step evaluate log document soFar c).saved)] := by
  simp only [step]
  cases (evaluate c.value document).ending with
  | failed message => rfl
  | done | halted =>
    rw [stored]
    cases Entries.get? c.name (store c.name (evaluate c.value document).values soFar.saved) <;> rfl

variable {evaluate log document}

/-- A report is the capture's own one exactly when earlier values cannot be taken for its own. -/
theorem report_eq_ownReport_iff (c : Field) (earlier : List Json) :
    report log c (evaluate c.value document).ending
        ((earlier ++ (evaluate c.value document).values).getLast?.map Json.asVariable) =
      ownReport evaluate log document c ↔
    (IsSilent evaluate document c → earlier = []) := by
  rw [ownReport, IsSilent]
  cases hvalues : (evaluate c.value document).values.getLast? with
  | some v =>
    have hne : (evaluate c.value document).values ≠ [] := by
      intro hnil
      rw [hnil] at hvalues
      cases hvalues
    simp [hvalues, hne]
  | none =>
    have hnil : (evaluate c.value document).values = [] := List.getLast?_eq_none_iff.1 hvalues
    rw [hnil, List.append_nil]
    cases (evaluate c.value document).ending with
    | failed message => simp [report]
    | done | halted =>
      cases hearlier : earlier.getLast? with
      | none => simp [List.getLast?_eq_none_iff.1 hearlier]
      | some v =>
        have hne : earlier ≠ [] := by
          rintro rfl
          cases hearlier
        simp [report, Logger.record, hne]

/-- The record of the last capture shows what it and those before it yielded under its name. -/
theorem records_foldl_concat (vars : Variables) (captures : List Field) (c : Field) :
    ((captures ++ [c]).foldl (step evaluate log document) ⟨vars, [], []⟩).records =
      (captures.foldl (step evaluate log document) ⟨vars, [], []⟩).records ++
        [report log c (evaluate c.value document).ending
          ((valuesOn evaluate document (captures ++ [c]) c.name).getLast?.map
            Json.asVariable)] := by
  have hsaved := saved_foldl_step evaluate log document (captures ++ [c]) ⟨vars, [], []⟩
  rw [List.foldl_concat] at hsaved ⊢
  rw [record_step, hsaved, Entries.get?_putAll, lastWrite?_valuesOn, Entries.get?, Option.or_none]

theorem length_records_foldl (vars : Variables) (captures : List Field) :
    (captures.foldl (step evaluate log document) ⟨vars, [], []⟩).records.length =
      captures.length := by
  induction captures using List.reverseRecOn with
  | nil => rfl
  | append_singleton captures c ih =>
    rw [records_foldl_concat, List.length_append, ih, List.length_append]
    rfl

theorem getElem?_records_foldl (vars : Variables) (captures : List Field) (i : Nat) :
    (captures.foldl (step evaluate log document) ⟨vars, [], []⟩).records[i]? =
      captures[i]?.map fun c => report log c (evaluate c.value document).ending
        ((valuesOn evaluate document (captures.take (i + 1)) c.name).getLast?.map
          Json.asVariable) := by
  induction captures using List.reverseRecOn with
  | nil => rfl
  | append_singleton captures c ih =>
    have hlength : (captures.foldl (step evaluate log document) ⟨vars, [], []⟩).records.length =
        captures.length := length_records_foldl vars captures
    rw [records_foldl_concat]
    rcases Nat.lt_trichotomy i captures.length with hi | rfl | hi
    · rw [List.getElem?_append_left (by omega), List.getElem?_append_left hi, ih,
        List.take_append_of_le_length (by omega)]
    · rw [List.getElem?_append_right hlength.le, hlength, Nat.sub_self,
        List.getElem?_append_right le_rfl, Nat.sub_self, List.take_of_length_le (by simp)]
      rfl
    · rw [List.getElem?_eq_none (by simp [hlength]; omega), List.getElem?_eq_none (by simp; omega)]
      rfl

/-- No capture of a list that is kept apart is mistaken for another. -/
theorem records_foldl_eq_iff (vars : Variables) (captures : List Field) :
    (captures.foldl (step evaluate log document) ⟨vars, [], []⟩).records =
        captures.map (ownReport evaluate log document) ↔
      captures.Pairwise (Apart evaluate document) := by
  induction captures using List.reverseRecOn with
  | nil => simp
  | append_singleton captures c ih =>
    have hapart : (IsSilent evaluate document c → valuesOn evaluate document captures c.name = []) ↔
        ∀ a ∈ captures, Apart evaluate document a c := by
      simp only [valuesOn, List.flatMap_eq_nil_iff, List.mem_filter, beq_iff_eq, Apart]
      exact ⟨fun h a ha hname hsilent => h hsilent a ⟨ha, hname⟩,
        fun h hsilent a ha => h a ha.1 ha.2 hsilent⟩
    rw [records_foldl_concat, valuesOn_concat, List.map_append, List.map_singleton,
      List.append_singleton_inj, ih, report_eq_ownReport_iff, hapart, List.pairwise_append]
    simp

end Capture

/-- The records that tell what each capture of a reply did. -/
def ownReports (evaluate : Evaluator) (log : Logger) (captures : List Field) (text : String) :
    List Record :=
  match Json.read .accept text.toList with
  | .error fault => captures.map fun c =>
    Capture.failed log c ("response body is not JSON: " ++ fault.message text.toList)
  | .ok document => captures.map (Capture.ownReport evaluate log document)

/-- Every capture of a reply is reported once, in order: as failed when the reply is not JSON or its
query fails, else with the last value yielded under its name by it or those before it, else as
empty. So all records tell what their own captures did exactly when no capture that neither yields
nor fails follows one of the same name that yields. -/
theorem records_of_capture (evaluate : Evaluator) (log : Logger) (captures : List Field)
    (text : String) (vars : Variables) :
    (capture evaluate log captures text vars).records.length = captures.length ∧
      (∀ fault, Json.read .accept text.toList = .error fault →
        (capture evaluate log captures text vars).records = ownReports evaluate log captures text) ∧
      ∀ document, Json.read .accept text.toList = .ok document →
        (∀ i : Nat, (capture evaluate log captures text vars).records[i]? =
          captures[i]?.map fun c => Capture.report log c (evaluate c.value document).ending
            ((valuesFor evaluate (captures.take (i + 1)) text c.name).getLast?.map
              Json.asVariable)) ∧
        ((capture evaluate log captures text vars).records = ownReports evaluate log captures text ↔
          captures.Pairwise (Capture.Apart evaluate document)) := by
  cases hread : Json.read .accept text.toList with
  | error fault =>
    rw [capture_of_fault evaluate log captures vars hread]
    refine ⟨List.length_map _, fun fault' h => ?_, fun document h => ?_⟩
    · rw [ownReports, hread]
    · cases h
  | ok document =>
    rw [capture_of_json evaluate log captures vars hread]
    refine ⟨Capture.length_records_foldl vars captures, fun fault h => ?_, fun document' h => ?_⟩
    · cases h
    · obtain rfl := Except.ok.inj h
      simp only [valuesFor, ownReports, hread]
      exact ⟨Capture.getElem?_records_foldl vars captures,
        Capture.records_foldl_eq_iff vars captures⟩

/-- A value, and then a query under the same name that yields nothing. -/
def repeatedName : List Field := [⟨"x", "."⟩, ⟨"x", "empty"⟩]

/-- The second capture yields nothing and is reported as saved, with the value of the first. -/
theorem not_forall_own_reports :
    ¬ ∀ (evaluate : Evaluator) (log : Logger) (captures : List Field) (text : String)
        (vars : Variables), (capture evaluate log captures text vars).records =
          ownReports evaluate log captures text := by
  intro h
  have hevents := congrArg (List.map Record.event) (h Query.evaluate {} repeatedName "true" [])
  have hshown : (capture Query.evaluate {} repeatedName "true" []).records.map Record.event =
      ["capture.saved", "capture.saved"] := by cbv
  have hown : (ownReports Query.evaluate {} repeatedName "true").map Record.event =
      ["capture.saved", "capture.empty"] := by cbv
  rw [hshown, hown] at hevents
  exact absurd hevents (by decide)

end HttpScript
