import HttpScript.Capture
import HttpScript.Proofs.Entries

/-!
# The variables after the captures of a reply

The captures of a reply write the values that their queries yield, in order, and nothing else. A
reply that is not JSON yields nothing; a query that fails yields what it gave before. So a variable
holds the last value that was yielded under its name, and the queries of a reply that is not JSON
are never asked.
-/
namespace HttpScript

/-- The variables written by the captures of a reply, each with its value, in order. -/
def yields (evaluate : Evaluator) (captures : List Field) (text : String) :
    List (String × String) :=
  match Json.read .accept text.toList with
  | .error _ => []
  | .ok document => captures.flatMap fun c =>
    (evaluate c.value document).values.map fun v => (c.name, v.asVariable)

namespace Capture

theorem store_eq (name : String) (values : List Json) (vars : Variables) :
    store name values vars = Entries.putAll vars (values.map fun v => (name, v.asVariable)) := by
  rw [store, Entries.putAll, List.foldl_map]

section

variable (evaluate : Evaluator) (log : Logger) (document : Json) (captures : List Field)

theorem vars_foldl_step (soFar : Captured) :
    (captures.foldl (step evaluate log document) soFar).vars =
      Entries.putAll soFar.vars (captures.flatMap fun c =>
        (evaluate c.value document).values.map fun v => (c.name, v.asVariable)) := by
  induction captures generalizing soFar with
  | nil => rfl
  | cons c captures ih =>
    rw [List.foldl_cons, ih, List.flatMap_cons, Entries.putAll_append]
    simp only [step, store_eq]

theorem saved_foldl_step (soFar : Captured) :
    (captures.foldl (step evaluate log document) soFar).saved =
      Entries.putAll soFar.saved (captures.flatMap fun c =>
        (evaluate c.value document).values.map fun v => (c.name, v.asVariable)) := by
  induction captures generalizing soFar with
  | nil => rfl
  | cons c captures ih =>
    rw [List.foldl_cons, ih, List.flatMap_cons, Entries.putAll_append]
    simp only [step, store_eq]

end

end Capture

section

variable (evaluate : Evaluator) (log : Logger) (captures : List Field) {text : String}
  (vars : Variables)

theorem capture_of_json {document : Json} (h : Json.read .accept text.toList = .ok document) :
    capture evaluate log captures text vars =
      captures.foldl (Capture.step evaluate log document) ⟨vars, [], []⟩ := by
  cases captures with
  | nil => rfl
  | cons c captures => rw [capture, if_neg (by simp), h]

/-- All captures of a reply that is not JSON fail alike. -/
theorem capture_of_fault {fault : Json.Fault} (h : Json.read .accept text.toList = .error fault) :
    capture evaluate log captures text vars = ⟨vars, [], captures.map fun c =>
      Capture.failed log c ("response body is not JSON: " ++ fault.message text.toList)⟩ := by
  cases captures with
  | nil => rfl
  | cons c captures => rw [capture, if_neg (by simp), h]

variable (text)

theorem vars_capture :
    (capture evaluate log captures text vars).vars =
      Entries.putAll vars (yields evaluate captures text) := by
  rw [yields]
  cases h : Json.read .accept text.toList with
  | error fault => rw [capture_of_fault evaluate log captures vars h]; rfl
  | ok document =>
    rw [capture_of_json evaluate log captures vars h, Capture.vars_foldl_step]

theorem saved_capture :
    (capture evaluate log captures text vars).saved =
      Entries.collapse (yields evaluate captures text) := by
  rw [yields]
  cases h : Json.read .accept text.toList with
  | error fault => rw [capture_of_fault evaluate log captures vars h]; rfl
  | ok document =>
    rw [capture_of_json evaluate log captures vars h, Capture.saved_foldl_step, Entries.collapse]

end

/-- The values that captures yield under a name on a document, in order. -/
def Capture.valuesOn (evaluate : Evaluator) (document : Json) (captures : List Field)
    (name : String) : List Json :=
  (captures.filter (·.name == name)).flatMap fun c => (evaluate c.value document).values

/-- The values that the captures of a reply yield under a name, in order. -/
def valuesFor (evaluate : Evaluator) (captures : List Field) (text : String) (name : String) :
    List Json :=
  match Json.read .accept text.toList with
  | .error _ => []
  | .ok document => Capture.valuesOn evaluate document captures name

theorem Capture.valuesOn_concat (evaluate : Evaluator) (document : Json) (captures : List Field)
    (c : Field) :
    valuesOn evaluate document (captures ++ [c]) c.name =
      valuesOn evaluate document captures c.name ++ (evaluate c.value document).values := by
  simp [valuesOn]

/-- The last value written under a name is the last one yielded under it. -/
theorem Capture.lastWrite?_valuesOn (evaluate : Evaluator) (document : Json)
    (captures : List Field) (name : String) :
    Entries.lastWrite? name (captures.flatMap fun c =>
        (evaluate c.value document).values.map fun v => (c.name, v.asVariable)) =
      (valuesOn evaluate document captures name).getLast?.map Json.asVariable := by
  have hwrites : (captures.flatMap fun c =>
      (evaluate c.value document).values.map fun v => (c.name, v.asVariable)).filter (·.1 == name) =
        (valuesOn evaluate document captures name).map fun v => (name, v.asVariable) := by
    induction captures with
    | nil => rfl
    | cons c captures ih =>
      rw [List.flatMap_cons, List.filter_append, ih]
      by_cases h : c.name = name <;> simp [valuesOn, h]
  rw [Entries.lastWrite?, hwrites, List.getLast?_map, Option.map_map]
  rfl

theorem lastWrite?_yields (evaluate : Evaluator) (captures : List Field) (text : String)
    (name : String) :
    Entries.lastWrite? name (yields evaluate captures text) =
      (valuesFor evaluate captures text name).getLast?.map Json.asVariable := by
  rw [yields, valuesFor]
  cases Json.read .accept text.toList with
  | error fault => rfl
  | ok document => exact Capture.lastWrite?_valuesOn evaluate document captures name

/-- The captures of a reply leave every variable alone that none of them names. -/
theorem get?_vars_capture_of_not_mem {captures : List Field} {name : String}
    (h : name ∉ captures.map (·.name)) (evaluate : Evaluator) (log : Logger) (text : String)
    (vars : Variables) :
    Entries.get? name (capture evaluate log captures text vars).vars = Entries.get? name vars := by
  have hnone : captures.filter (·.name == name) = [] := by
    refine List.filter_eq_nil_iff.2 fun c hc => ?_
    rw [beq_iff_eq]
    rintro rfl
    exact h (List.mem_map_of_mem hc)
  have hvalues : valuesFor evaluate captures text name = [] := by
    rw [valuesFor]
    cases Json.read .accept text.toList with
    | error fault => rfl
    | ok document =>
      simp only [Capture.valuesOn, hnone]
      rfl
  rw [vars_capture, Entries.get?_putAll, lastWrite?_yields, hvalues]
  rfl

/-- Nothing but the queries of the captures is asked, and only about a reply that is JSON. -/
theorem capture_congr {evaluate evaluate' : Evaluator} {captures : List Field} {text : String}
    (h : ∀ document, Json.read .accept text.toList = .ok document →
      ∀ c ∈ captures, evaluate c.value document = evaluate' c.value document)
    (log : Logger) (vars : Variables) :
    capture evaluate log captures text vars = capture evaluate' log captures text vars := by
  cases hread : Json.read .accept text.toList with
  | error fault =>
    rw [capture_of_fault evaluate log captures vars hread,
      capture_of_fault evaluate' log captures vars hread]
  | ok document =>
    rw [capture_of_json evaluate log captures vars hread,
      capture_of_json evaluate' log captures vars hread]
    refine List.foldl_ext _ _ _ fun soFar c hc => ?_
    rw [Capture.step, Capture.step, h document hread c hc]

/-- After the captures of a reply every variable holds the last value that was yielded under its
name, or what it held before, and the saved values are the same. No query is asked when the reply is
not JSON or when there is nothing to capture. -/
theorem capture_stores_last (evaluate : Evaluator) (log : Logger) (captures : List Field)
    (text : String) (vars : Variables) :
    (∀ name, Entries.get? name (capture evaluate log captures text vars).vars =
        ((valuesFor evaluate captures text name).getLast?.map Json.asVariable).or
          (Entries.get? name vars)) ∧
      (∀ name, Entries.get? name (capture evaluate log captures text vars).saved =
        (valuesFor evaluate captures text name).getLast?.map Json.asVariable) ∧
      ((capture evaluate log captures text vars).saved.map (·.1)).Nodup ∧
      (captures = [] ∨ (∃ fault, Json.read .accept text.toList = .error fault) →
        ∀ other,
          capture other log captures text vars = capture evaluate log captures text vars) := by
  refine ⟨fun name => ?_, fun name => ?_, ?_, fun h other => ?_⟩
  · rw [vars_capture, Entries.get?_putAll, lastWrite?_yields]
  · rw [saved_capture, Entries.collapse, Entries.get?_putAll, lastWrite?_yields, Entries.get?,
      Option.or_none]
  · rw [saved_capture]
    exact Entries.nodup_names_collapse _
  · refine capture_congr (fun document hread c hc => ?_) log vars
    rcases h with rfl | ⟨fault, hfault⟩
    · cases hc
    · rw [hread] at hfault
      cases hfault

end HttpScript
