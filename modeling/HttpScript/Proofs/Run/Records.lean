import HttpScript.Proofs.Run.Composition
import Mathlib

/-!
# What a run writes to its log

The records of a run can be told from how its requests end: which events there are, in which order,
and that each carries the name of the run and, within a request, its number and its line.
-/
namespace HttpScript

/-- The records of a journal. -/
def records (journal : List Effect) : List Record :=
  journal.filterMap fun
    | .logged r => some r
    | _ => none

@[simp] theorem records_nil : records [] = [] := rfl

@[simp] theorem records_append (a b : List Effect) : records (a ++ b) = records a ++ records b :=
  List.filterMap_append

@[simp] theorem records_logged (r : Record) (journal : List Effect) :
    records (.logged r :: journal) = r :: records journal := rfl

@[simp] theorem records_sent (m : Outgoing) (journal : List Effect) :
    records (.sent m :: journal) = records journal := rfl

@[simp] theorem records_printed (lines : List String) (journal : List Effect) :
    records (.printed lines :: journal) = records journal := rfl

@[simp] theorem records_slept (seconds : Float) (journal : List Effect) :
    records (.slept seconds :: journal) = records journal := rfl

@[simp] theorem records_map_logged (rs : List Record) : records (rs.map .logged) = rs := by
  induction rs with
  | nil => rfl
  | cons r rs ih => exact congrArg (r :: ·) ih

/-! ### Records and what is said of them -/

/-- What is said of a record: the events that it may be of, and some of its fields. -/
structure Sketch where
  events : List String
  fields : LogFields

def Sketch.Fits (k : Sketch) (r : Record) : Prop :=
  r.event ∈ k.events ∧ ∀ f ∈ k.fields, Entries.get? f.1 r.fields = some f.2

/-- The names of the fields that a log is bound to. No event has a field of its own with one of
these names. -/
def boundNames : List String := ["run_id", "step", "line"]

/-- A log that is bound to fields. -/
structure Logger.Carries (log : Logger) (fields : LogFields) : Prop where
  bound : ∀ f ∈ fields, Entries.get? f.1 log.bound = some f.2
  names : ∀ f ∈ fields, f.1 ∈ boundNames

/-- The fields of a record are those of its event, and those of its log where these are silent. -/
theorem get?_record (log : Logger) (level : Level) (event : String) (own : LogFields)
    {name : String} (hname : name ≠ "type") :
    Entries.get? name (log.record level event own).fields =
      (Entries.lastWrite? name own).or (Entries.get? name log.bound) := by
  rw [Logger.record, Entries.get?_putNew_of_ne hname, Entries.get?_putAll]

section

variable {log : Logger} {bound : LogFields} (h : log.Carries bound)
include h

/-- The fields of an event do not hide those of the log. -/
theorem Logger.Carries.record (level : Level) (event : String) {own : LogFields}
    (hown : ∀ o ∈ own, o.1 ∉ boundNames) :
    Sketch.Fits ⟨[event], bound⟩ (log.record level event own) := by
  refine ⟨List.mem_singleton_self _, fun f hf => ?_⟩
  have hname := h.names f hf
  have htype : f.1 ≠ "type" := fun htype => by simp [htype, boundNames] at hname
  have hwrites : own.filter (·.1 == f.1) = [] := by
    refine List.filter_eq_nil_iff.2 fun o ho => ?_
    rw [beq_iff_eq]
    exact fun heq => hown o ho (heq ▸ hname)
  rw [get?_record log level event own htype, Entries.lastWrite?, hwrites]
  exact h.bound f hf

/-- A record of one of several events that also has a field of its own. -/
theorem Logger.Carries.record_with (level : Level) {event : String} {events : List String}
    (hevent : event ∈ events) {own : LogFields} (hown : ∀ o ∈ own, o.1 ∉ boundNames)
    {name : String} (hname : name ≠ "type") {value : Text.Literal}
    (hvalue : Entries.lastWrite? name own = some value) :
    Sketch.Fits ⟨events, (name, value) :: bound⟩ (log.record level event own) := by
  refine ⟨hevent, fun f hf => ?_⟩
  rcases List.mem_cons.1 hf with rfl | hf
  · rw [get?_record log level event own hname, hvalue]
    rfl
  · exact (h.record level event hown).2 f hf

end

/-! ### Captures -/

/-- Whatever a capture comes to, one record tells it. -/
def captureSketch (bound : LogFields) (c : Field) : Sketch :=
  ⟨["capture.saved", "capture.empty", "capture.failed"], ("name", .text c.name) :: bound⟩

section

variable {log : Logger} {bound : LogFields} (h : log.Carries bound)
include h

theorem Capture.failed_fits (c : Field) (message : String) :
    (captureSketch bound c).Fits (failed log c message) :=
  h.record_with .warning (by simp) (by simp [boundNames]) (by decide) (by simp [Entries.lastWrite?])

theorem Capture.stored_fits (c : Field) (saved : Variables) :
    (captureSketch bound c).Fits (stored log c saved) := by
  rw [stored]
  split
  · exact h.record_with .info (by simp) (by simp [boundNames]) (by decide)
      (by simp [Entries.lastWrite?])
  · exact h.record_with .debug (by simp) (by simp [boundNames]) (by decide)
      (by simp [Entries.lastWrite?])

theorem Capture.foldl_step_fits (evaluate : Evaluator) (document : Json) (captures : List Field)
    (soFar : Captured) {told : List Sketch} (hsoFar : List.Forall₂ Sketch.Fits told soFar.records) :
    List.Forall₂ Sketch.Fits (told ++ captures.map (captureSketch bound))
      (captures.foldl (step evaluate log document) soFar).records := by
  induction captures generalizing soFar told with
  | nil => simpa using hsoFar
  | cons c captures ih =>
    rw [List.map_cons, List.append_cons, List.foldl_cons]
    refine ih _ (List.rel_append hsoFar (.cons ?_ .nil))
    split
    · exact failed_fits h c _
    · exact stored_fits h c _

/-- The captures of a reply write one record each, in order. -/
theorem capture_fits (evaluate : Evaluator) (captures : List Field) (text : String)
    (vars : Variables) :
    List.Forall₂ Sketch.Fits (captures.map (captureSketch bound))
      (capture evaluate log captures text vars).records := by
  rw [capture]
  cases captures with
  | nil => exact .nil
  | cons c captures =>
    rw [if_neg (by simp)]
    cases Json.read .accept text.toList with
    | error fault =>
      refine List.forall₂_map_left_iff.2 (List.forall₂_map_right_iff.2 ?_)
      exact List.forall₂_same.2 fun c _ => Capture.failed_fits h c _
    | ok document =>
      exact Capture.foldl_step_fits h evaluate document (c :: captures) ⟨vars, [], []⟩ .nil

end

/-! ### Requests -/

def Outcome.failure? : Outcome → Option StepFailure
  | .failed why => some why
  | _ => none

/-- What the records say of a request between its start and its end. Captures are made only when the
reply has the status that is expected. -/
def handlingSketches (bound : LogFields) (r : Request) : Option StepFailure → List Sketch
  | some (.template _) => [⟨["template.render_failed"], bound⟩]
  | some (.transport _) => [⟨["http.request"], bound⟩, ⟨["http.step_failed"], bound⟩]
  | some (.status _ _) => [⟨["http.request"], bound⟩, ⟨["http.response"], bound⟩]
  | none => ⟨["http.request"], bound⟩ :: ⟨["http.response"], bound⟩ ::
      r.captures.map (captureSketch bound)

/-- What the records say of a request from its start to the pause after it. -/
def stepSketches (bound : LogFields) (r : Request) (failure : Option StepFailure) : List Sketch :=
  ⟨["step.start"], bound⟩ ::
    (handlingSketches bound r failure ++
      ⟨["step.end"], ("ok", .bool failure.isNone) :: bound⟩ ::
        if failure = none ∧ 0 < r.waitMs then
          [⟨["step.wait"], ("wait_ms", .int r.waitMs) :: bound⟩]
        else [])

section

variable {σ : Type} {log : Logger} {bound : LogFields} (h : log.Carries bound)
include h

theorem Step.requestRecord_fits (message : Outgoing) :
    Sketch.Fits ⟨["http.request"], bound⟩ (requestRecord log message) :=
  h.record .debug _ (by simp [boundNames])

theorem Step.responseRecord_fits (reply : Reply) :
    Sketch.Fits ⟨["http.response"], bound⟩ (responseRecord log reply) :=
  h.record .info _ (by simp [boundNames])

/-- The outcome of a request tells what is written about it. -/
theorem Step.run_fits (send : Transport σ) (evaluate : Evaluator) (console : Console) (r : Request)
    (ctx : Context) (link : σ) :
    let result := run send evaluate console log r ctx link
    List.Forall₂ Sketch.Fits (handlingSketches bound r result.outcome.failure?)
      (records result.journal) := by
  cases exit send r ctx link with
  | template fails =>
    rw [run_of_template _ _ _ fails]
    exact .cons (h.record .error _ (by simp [boundNames])) .nil
  | transport prepared sent =>
    rw [run_of_transport _ _ _ prepared sent]
    exact .cons (requestRecord_fits h _) (.cons (h.record .error _ (by simp [boundNames])) .nil)
  | status prepared sent fails =>
    rw [run_of_status _ _ _ prepared sent fails]
    exact .cons (requestRecord_fits h _) (.cons (responseRecord_fits h _) .nil)
  | @passed m reply _ prepared sent passes =>
    rw [run_of_passed _ _ _ prepared sent passes]
    have hcaptures := capture_fits h evaluate r.captures reply.text ctx.vars
    refine .cons (requestRecord_fits h _) (.cons (responseRecord_fits h _) ?_)
    simpa using hcaptures

theorem Run.stepJournal_fits (s : Setup σ) (number : Nat) (r : Request) (result : StepRun σ)
    (hresult : List.Forall₂ Sketch.Fits (handlingSketches bound r result.outcome.failure?)
      (records result.journal)) :
    List.Forall₂ Sketch.Fits
      (⟨["step.start"], bound⟩ :: (handlingSketches bound r result.outcome.failure? ++
        [⟨["step.end"], ("ok", .bool result.outcome.isPassed) :: bound⟩]))
      (records (stepJournal s log number r result)) := by
  simp only [stepJournal, begunJournal, List.cons_append, records_logged, records_append, records_nil]
  refine .cons (h.record .info _ (by simp [boundNames])) (List.rel_append hresult (.cons ?_ .nil))
  exact h.record_with .info (by simp) (by simp [boundNames]) (by decide)
    (by simp [Entries.lastWrite?])

theorem pause_fits (console : Console) (ms : Int) :
    List.Forall₂ Sketch.Fits
      (if 0 < ms then [⟨["step.wait"], ("wait_ms", .int ms) :: bound⟩] else [])
      (records (pause console log ms).2) := by
  rw [pause]
  by_cases hms : ms ≤ 0
  · rw [if_pos hms, if_neg (by omega)]
    exact .nil
  · have hrecord : Sketch.Fits ⟨["step.wait"], ("wait_ms", .int ms) :: bound⟩
        (log.record .info "step.wait" [("wait_ms", .int ms)]) :=
      h.record_with .info (by simp) (by simp [boundNames]) (by decide) (by simp [Entries.lastWrite?])
    rw [if_neg hms, if_pos (by omega)]
    cases seconds? ms <;> exact .cons hrecord .nil

end

/-! ### The whole run -/

namespace Scenario

variable (S : Scenario)

/-- The fields of every record: the name that the run has. -/
def runFields : LogFields := [("run_id", .text S.run.position.context.runId)]

/-- The fields of every record within a request. -/
def stepFields (n : Nat) (r : Request) : LogFields :=
  S.runFields ++ [("step", .int (n + 1 : Nat)), ("line", .int r.line)]

def sketches (n : Nat) : List Sketch :=
  (S.requests[n]?.map fun r => stepSketches (S.stepFields n r) r (S.failure n)).getD []

def sketchesBefore (n : Nat) : List Sketch := (List.range n).flatMap S.sketches

/-- What the records say of a run with a report: how it was authenticated, each request that was
begun, and, only if all of them passed, the end. -/
def runSketches (report : Report) : List Sketch :=
  ⟨["run.start"], S.runFields⟩ ::
    match S.token with
    | .error _ => [⟨["auth.failed"], S.runFields⟩]
    | .ok _ => ⟨["auth.ok"], S.runFields⟩ :: (S.sketchesBefore report.stepsRun ++
        if report.ok then [⟨["run.end"], ("ok", .bool true) :: S.runFields⟩] else [])

variable {S}

/-- The name that a run gets before its first record is the one that it has in the end. -/
theorem runId_run : S.run.position.context.runId = (nameRun S.setup S.start).context.runId := by
  cases h : S.token with
  | error why =>
    have hrun : S.run = _ := execute_of_no_token (login_start.trans (by rw [h])) S.requests
    rw [hrun]
  | ok token =>
    rw [run_of_token h]
    exact (Run.steps_keepsRun (Handler.sending_keepsRun _ _ _) _ _ _ _).1

theorem carries_runFields : (runLog S.setup S.start).Carries S.runFields := by
  rw [runFields, runId_run, runLog]
  refine ⟨fun f hf => ?_, fun f hf => ?_⟩ <;> obtain rfl := List.mem_singleton.1 hf
  · simp [Logger.bind, Entries.get?_putAll, Entries.lastWrite?]
  · simp [boundNames]

theorem carries_stepFields {log : Logger} (h : log.Carries S.runFields) (n : Nat) (r : Request) :
    (Run.stepLog log (n + 1) r).Carries (S.stepFields n r) := by
  have hbound : ∀ name, Entries.get? name (Run.stepLog log (n + 1) r).bound =
      (Entries.lastWrite? name [("step", .int (n + 1 : Nat)), ("line", .int r.line)]).or
        (Entries.get? name log.bound) := fun name => Entries.get?_putAll _ _ _
  refine ⟨fun f hf => ?_, fun f hf => ?_⟩ <;> rcases List.mem_append.1 hf with hf | hf
  · have hrun := h.bound f hf
    obtain rfl := List.mem_singleton.1 hf
    rw [hbound]
    simpa [Entries.lastWrite?] using hrun
  · rw [hbound]
    rcases List.mem_cons.1 hf with rfl | hf
    · simp [Entries.lastWrite?]
    · obtain rfl := List.mem_singleton.1 hf
      simp [Entries.lastWrite?]
  · exact h.names f hf
  · rcases List.mem_cons.1 hf with rfl | hf
    · simp [boundNames]
    · obtain rfl := List.mem_singleton.1 hf
      simp [boundNames]

theorem sketchesBefore_succ (n : Nat) :
    S.sketchesBefore (n + 1) = S.sketchesBefore n ++ S.sketches n := by
  simp [sketchesBefore, List.range_succ]

theorem sketches_eq {n : Nat} {r : Request} (hr : S.requests[n]? = some r) :
    S.sketches n = stepSketches (S.stepFields n r) r (S.failure n) := by
  rw [sketches, hr]
  rfl

theorem steps_fits {log : Logger} (hlog : log.Carries S.runFields) (rest : List Request) {n : Nat}
    {p : Position (List Call)} (hp : S.At n p) (hrest : S.requests.drop n = rest) {report : Report}
    (hreport : (Run.steps S.setup log (n + 1) rest p).ending.report? = some report)
    {before : List Record} (hbefore : List.Forall₂ Sketch.Fits (S.sketchesBefore n) before) :
    List.Forall₂ Sketch.Fits
      (S.sketchesBefore report.stepsRun ++
        if report.ok then [⟨["run.end"], ("ok", .bool true) :: S.runFields⟩] else [])
      (before ++ records (Run.steps S.setup log (n + 1) rest p).journal) := by
  induction rest generalizing n p before with
  | nil =>
    obtain rfl := Option.some.inj hreport
    refine List.rel_append hbefore (.cons ?_ .nil)
    exact hlog.record_with .info (by simp) (by simp [boundNames]) (by decide)
      (by simp [Entries.lastWrite?])
  | cons r rest ih =>
    obtain ⟨hr, hdrop⟩ := get_of_drop hrest
    by_cases hwritable : r.isWritable (S.entered n) = true
    swap
    · rw [Run.steps_of_unwritable
        (handle_of_unwritable hp (by simpa using hwritable) _) rfl] at hreport
      cases hreport
    obtain ⟨houtcome, -⟩ := handle_spec hp hr hwritable (Run.stepLog log (n + 1) r)
    have hnext := hp.succ hr hwritable (Run.stepLog log (n + 1) r)
    have hcarries := carries_stepFields hlog n r
    have hrun := Step.run_fits hcarries S.send S.evaluate S.console r (Run.enter S.setup p) p.link
    obtain ⟨result, hresult⟩ : ∃ result, S.setup.handler.handle (Run.stepLog log (n + 1) r) r
      (Run.enter S.setup p) p.link = result := ⟨_, rfl⟩
    have hsending : Step.run S.send S.evaluate S.console (Run.stepLog log (n + 1) r) r
      (Run.enter S.setup p) p.link = result := (handle_of_writable hp hwritable _).symm.trans hresult
    rw [hresult] at houtcome hnext
    rw [hsending] at hrun
    have hjournal := Run.stepJournal_fits hcarries S.setup (n + 1) r result hrun
    cases hf : S.failure n with
    | some why =>
      rw [hf] at houtcome
      rw [Run.steps_of_failed hresult houtcome] at hreport ⊢
      obtain rfl := Option.some.inj hreport
      rw [if_neg (by simp), List.append_nil, sketchesBefore_succ, sketches_eq hr, hf]
      refine List.rel_append hbefore ?_
      simpa [stepSketches, houtcome, Outcome.failure?, Outcome.isPassed] using hjournal
    | none =>
      rw [hf] at houtcome
      have hstep : List.Forall₂ Sketch.Fits (S.sketches n)
          (records (Run.stepJournal S.setup (Run.stepLog log (n + 1) r) (n + 1) r result ++
            (pause S.setup.console (Run.stepLog log (n + 1) r) r.waitMs).2)) := by
        have hpause := pause_fits hcarries S.setup.console r.waitMs
        rw [sketches_eq hr, hf, records_append]
        simpa [stepSketches, houtcome, Outcome.failure?, Outcome.isPassed] using
          List.rel_append hjournal hpause
      by_cases hwait : 0 < r.waitMs ∧ seconds? r.waitMs = none
      · rw [Run.steps_of_endless hresult houtcome hwait] at hreport
        cases hreport
      · rw [Run.steps_of_passed hresult houtcome hwait] at hreport ⊢
        have hsofar := List.rel_append hbefore hstep
        simp only [← sketchesBefore_succ] at hsofar
        have hrest := ih (hnext hf (canWait_of_get hr hwait)) hdrop hreport hsofar
        simpa only [Run.prepend, records_append, List.append_assoc] using hrest

/-- The log of a run with a report tells how it went: each request that was begun has a start, what
became of it, and an end, all under its number and its line and under the name of the run. -/
theorem run_fits_sketches (S : Scenario) {report : Report}
    (h : S.run.ending.report? = some report) :
    List.Forall₂ Sketch.Fits (S.runSketches report) (records S.run.journal) := by
  have hstarted : Sketch.Fits ⟨["run.start"], S.runFields⟩
      ((runLog S.setup S.start).record .info "run.start" [("steps", .int S.requests.length)]) :=
    carries_runFields.record .info _ (by simp [boundNames])
  rw [runSketches]
  cases htoken : S.token with
  | error why =>
    have hrun : S.run = _ := execute_of_no_token (login_start.trans (by rw [htoken])) S.requests
    rw [hrun]
    exact .cons hstarted (.cons (carries_runFields.record .error _ (by simp [boundNames])) .nil)
  | ok token =>
    have hrun := run_of_token htoken
    rw [hrun] at h
    have hsteps := steps_fits carries_runFields S.requests (at_start htoken) rfl h .nil
    rw [congrArg Run.journal hrun]
    exact .cons hstarted
      (.cons (carries_runFields.record .debug _ (by simp [boundNames])) hsteps)

/-- Two captures and a pause belong to the first request. The second one is refused, so it captures
nothing, and the run has no end. -/
theorem run_fits_sketches_refusal :
    ∃ report, refusal.run.ending.report? = some report ∧ report.failedStep = some 2 ∧
      List.Forall₂ Sketch.Fits (refusal.runSketches report) (records refusal.run.journal) ∧
      (refusal.runSketches report).map (·.events) = [["run.start"], ["auth.ok"],
        ["step.start"], ["http.request"], ["http.response"],
        ["capture.saved", "capture.empty", "capture.failed"],
        ["capture.saved", "capture.empty", "capture.failed"], ["step.end"], ["step.wait"],
        ["step.start"], ["http.request"], ["http.response"], ["step.end"]] := by
  have hreport : refusal.run.ending.report? = some {
      ok := false
      failedStep := some 2
      errorMessage := some "expected 200 but got 404"
      expectedStatus := some 200
      actualStatus := some 404
      stepsRun := 2 } := by decide +kernel
  exact ⟨_, hreport, rfl, run_fits_sketches refusal hreport, by decide +kernel⟩

end Scenario

end HttpScript
