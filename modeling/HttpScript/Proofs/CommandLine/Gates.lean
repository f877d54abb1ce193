import HttpScript.CommandLine.Program
import HttpScript.Proofs.Login
import HttpScript.Proofs.Run.Delivery
import HttpScript.Proofs.Settings
import Mathlib

/-!
# What has to be in order before anything is sent, and how the program exits

The script, the settings and the login are three gates. When one of them is shut, nothing behind it
is sent, the reason is shown, and the program exits with 1. When all are open it exits with 0 if each
request is answered as it expects, and else names the one that is not.
-/
namespace HttpScript

/-- The packages with servers behind the sessions. -/
def Packages.reaching (packages : Packages (List Dispatch)) (server : Environment → Server) :
    Packages (List Dispatch) :=
  { packages with session := fun env => (server env).session }

namespace Program

/-- The lines on the output. -/
def shown (outputs : List Output) : List String :=
  outputs.flatMap fun
    | .shown lines => lines
    | _ => []

/-- Script and settings are in order. -/
structure IsReady {σ : Type} (packages : Packages σ) (s : Surroundings) (o : Options)
    (requests : List Request) (env : Environment) (settings : Settings) : Prop where
  loaded : loadScript (s.files o.script) = .ok requests
  sound : problems requests = []
  configured : (s.configuration packages.environmentFile packages.reader o.config).2 =
    .ok (env, settings)

/-- What is shown when script and settings are not in order: only the first thing that is wrong is
reported, and of a script that reads all problems. -/
inductive Refused {σ : Type} (packages : Packages σ) (s : Surroundings) (o : Options) :
    List String → Prop
  | notFound (h : loadScript (s.files o.script) = .error .notFound) :
      Refused packages s o ["ERROR: " ++ notFoundMessage o.script]
  | undecodable {fault : Text.Utf8.Fault}
      (h : loadScript (s.files o.script) = .error (.undecodable fault)) :
      Refused packages s o ["ERROR: " ++ undecodableMessage fault]
  | syntaxError {e : SyntaxError}
      (h : loadScript (s.files o.script) = .error (.script (.syntaxError e))) :
      Refused packages s o [(e.diagnostic (some o.script)).render]
  | problems {requests : List Request} (loaded : loadScript (s.files o.script) = .ok requests)
      (unsound : problems requests ≠ []) :
      Refused packages s o ((problems requests).map fun p => "ERROR: " ++ p.message)
  | settings {requests : List Request} {fault : SettingsFault}
      (loaded : loadScript (s.files o.script) = .ok requests)
      (sound : HttpScript.problems requests = [])
      (h : (s.configuration packages.environmentFile packages.reader o.config).2 = .error fault) :
      Refused packages s o ["ERROR: " ++ fault.message]

theorem shown_append (a b : List Output) : shown (a ++ b) = shown a ++ shown b :=
  List.flatMap_append

/-! ### Script and settings -/

section

variable {σ : Type} {packages : Packages σ} {s : Surroundings} {o : Options}
  {requests : List Request}

theorem requests_of_sound (loaded : loadScript (s.files o.script) = .ok requests)
    (sound : problems requests = []) : Program.requests s o.script = .ok requests := by
  rw [Program.requests, loaded]
  show (if (problems requests).isEmpty = true then _ else _) = _
  rw [sound]
  rfl

theorem requests_of_unsound (loaded : loadScript (s.files o.script) = .ok requests)
    (unsound : problems requests ≠ []) :
    Program.requests s o.script = .error (.problems (problems requests)) := by
  rw [Program.requests, loaded]
  show (if (problems requests).isEmpty = true then _ else _) = _
  rw [if_neg (by simpa using unsound)]

theorem requests_of_loadFault {fault : LoadFault} (h : loadScript (s.files o.script) = .error fault) :
    Program.requests s o.script = .error (.load o.script fault) := by
  rw [Program.requests, h]
  rfl

/-- A script that was not loaded is reported, or stops the program without an exit code. -/
theorem refused_of_loadFault {fault : LoadFault} (h : loadScript (s.files o.script) = .error fault)
    {code : Nat} (hcode : (Obstacle.load o.script fault).report.1 = .exit code) :
    code = 1 ∧ Refused packages s o (shown (Obstacle.load o.script fault).report.2) := by
  cases fault with
  | notFound =>
    cases hcode
    exact ⟨rfl, .notFound h⟩
  | undecodable fault =>
    cases hcode
    exact ⟨rfl, .undecodable h⟩
  | script fault =>
    cases fault with
    | syntaxError e =>
      cases hcode
      exact ⟨rfl, .syntaxError h⟩
    | longInteger digits => cases hcode

theorem refused_of_problems (loaded : loadScript (s.files o.script) = .ok requests)
    (unsound : problems requests ≠ []) :
    Refused packages s o (shown (Obstacle.problems (problems requests)).report.2) := by
  have hshown : shown (Obstacle.problems (problems requests)).report.2 =
      (problems requests).map fun p => "ERROR: " ++ p.message := by
    rw [Obstacle.report, shown, List.flatMap_map]
    exact List.map_eq_flatMap.symm
  rw [hshown]
  exact .problems loaded unsound

theorem refused_of_settingsFault {fault : SettingsFault}
    (loaded : loadScript (s.files o.script) = .ok requests) (sound : problems requests = [])
    (h : (s.configuration packages.environmentFile packages.reader o.config).2 = .error fault)
    {code : Nat}
    (hcode : (Obstacle.settings fault).report.1 = .exit code) :
    code = 1 ∧ Refused packages s o (shown (Obstacle.settings fault).report.2) := by
  rw [Obstacle.report] at hcode ⊢
  split at hcode
  · rename_i hexpected
    cases hcode
    rw [if_pos hexpected]
    exact ⟨rfl, .settings loaded sound h⟩
  · cases hcode

variable (identifier : Nat → String) (link : σ)

theorem runOptions_of_obstacle {obstacle : Obstacle}
    (h : Program.requests s o.script = .error obstacle) :
    runOptions packages s identifier o link =
      ⟨obstacle.report.1, .noted [] :: obstacle.report.2, link⟩ := by
  rw [runOptions, h]

theorem runOptions_of_settingsFault {fault : SettingsFault}
    (hrequests : Program.requests s o.script = .ok requests)
    (h : (s.configuration packages.environmentFile packages.reader o.config).2 = .error fault) :
    ∃ warnings, runOptions packages s identifier o link =
      ⟨(Obstacle.settings fault).report.1, .noted warnings :: (Obstacle.settings fault).report.2,
        link⟩ := by
  rw [runOptions, hrequests]
  generalize s.configuration packages.environmentFile packages.reader o.config = found at h
  obtain ⟨warnings, result⟩ := found
  obtain rfl : result = .error fault := h
  exact ⟨warnings, rfl⟩

theorem runOptions_of_ready {env : Environment} {settings : Settings}
    (h : IsReady packages s o requests env settings) :
    ∃ warnings, runOptions packages s identifier o link =
      let run := runRequests packages identifier env o settings requests link
      { run with outputs := .noted warnings :: run.outputs } := by
  have hconfigured := h.configured
  rw [runOptions, requests_of_sound h.loaded h.sound]
  generalize s.configuration packages.environmentFile packages.reader o.config = found
    at hconfigured
  obtain ⟨warnings, result⟩ := found
  obtain rfl : result = .ok (env, settings) := hconfigured
  exact ⟨warnings, rfl⟩

/-- When something is not in order, it is reported, and nothing is sent. -/
theorem runOptions_of_not_ready
    (h : ¬ ∃ requests env settings, IsReady packages s o requests env settings) :
    let run := runOptions packages s identifier o link
    run.link = link ∧ ∀ code, run.ending = .exit code →
      code = 1 ∧ Refused packages s o (shown run.outputs) := by
  cases hload : loadScript (s.files o.script) with
  | error fault =>
    rw [runOptions_of_obstacle identifier link (requests_of_loadFault hload)]
    exact ⟨rfl, fun code hcode => refused_of_loadFault hload hcode⟩
  | ok requests =>
    by_cases hproblems : problems requests = []
    · cases hconfigured : (s.configuration packages.environmentFile packages.reader o.config).2 with
      | ok found => exact absurd ⟨requests, found.1, found.2, hload, hproblems, hconfigured⟩ h
      | error fault =>
        obtain ⟨warnings, hrun⟩ := runOptions_of_settingsFault identifier link
          (requests_of_sound hload hproblems) hconfigured
        rw [hrun]
        exact ⟨rfl, fun code hcode => refused_of_settingsFault hload hproblems hconfigured hcode⟩
    · rw [runOptions_of_obstacle identifier link (requests_of_unsound hload hproblems)]
      refine ⟨rfl, fun code hcode => ?_⟩
      cases hcode
      exact ⟨rfl, refused_of_problems hload hproblems⟩

end

/-! ### The run -/

theorem login_of_token {σ : Type} (packages : Packages σ) (identifier : Nat → String)
    (o : Options) {env : Environment} {settings : Settings} {link sent : σ}
    {result : Except LoginFault String}
    (h : Login.token (packages.session env) settings link = (result, sent)) :
    let s := setup packages identifier env o settings
    s.login (nameRun s ⟨{}, link, 0⟩).link = (result.mapError LoginFault.message, sent) := by
  intro s
  have hlink : (nameRun s ⟨{}, link, 0⟩).link = link := rfl
  have hlogin : s.login link = _ := congrArg (fun found : Except LoginFault String × σ =>
    (found.1.mapError LoginFault.message, found.2)) h
  rw [hlink, hlogin]

/-- What is shown does not hang on the records. -/
theorem shown_outputs (level : Level) (journal : List Effect) :
    shown (journal.filterMap (outputOf level)) =
      shown ((outward journal).filterMap (outputOf level)) := by
  induction journal with
  | nil => rfl
  | cons e journal ih =>
    cases e with
    | logged r =>
      rw [outward_logged, ← ih, List.filterMap_cons]
      by_cases hlevel : level.rank ≤ r.level.rank
      · simp only [outputOf, if_pos hlevel]
        rfl
      · simp only [outputOf, if_neg hlevel]
    | sent m => exact ih
    | printed lines => exact congrArg (lines ++ ·) ih
    | slept x => exact ih

/-- Nor does anything else that the program makes of a run. -/
theorem conclude_sameButLog {σ : Type} (o : Options) {x y : Run σ} (h : x.SameButLog y) :
    (conclude o x).ending = (conclude o y).ending ∧ (conclude o x).link = (conclude o y).link ∧
      shown (conclude o x).outputs = shown (conclude o y).outputs := by
  simp only [conclude, h.ending, h.position, shown_append, true_and]
  rw [shown_outputs, h.seen, ← shown_outputs]

section

variable (packages : Packages (List Dispatch)) {server : Environment → Server}
  (identifier : Nat → String) {env : Environment} (o : Options) {settings : Settings}
  (requests : List Request)

/-- The requests of a run go through the session to the server. -/
theorem handler_setup (settings : Settings) :
    let s := setup (packages.reaching server) identifier env o settings
    s.handler = .sending ((server env).client settings.timeout).transport packages.evaluate
      s.console := rfl

/-- Without a token nothing more is sent, and the program says why. -/
theorem runRequests_of_no_token {why : LoginFault} {sent : List Dispatch}
    (h : Login.token (server env).session settings [] = (.error why, sent)) :
    let run := runRequests (packages.reaching server) identifier env o settings requests []
    run.ending = .exit 1 ∧ run.link = sent ∧
      shown run.outputs = ["ERROR: authentication error: " ++ why.message] := by
  have hlogin := login_of_token (packages.reaching server) identifier o h
  rw [runRequests, execute_of_no_token hlogin]
  refine ⟨rfl, rfl, ?_⟩
  rw [conclude, shown_append, shown_outputs]
  rfl

/-- With a token the requests are delivered. -/
theorem runRequests_of_token {token : String} {sent : List Dispatch}
    (h : Login.token (server env).session settings [] = (.ok token, sent)) :
    ∃ run, runRequests (packages.reaching server) identifier env o settings requests [] =
        conclude o run ∧
      Delivers (server env) settings.timeout token 0 sent requests run.ending
        run.position.link := by
  have hlogin := login_of_token (packages.reaching server) identifier o h
  rw [runRequests, execute_of_token hlogin]
  exact ⟨_, rfl, Run.steps_delivers (handler_setup packages identifier o settings) _ requests 0
    (loggedIn _ ⟨{}, [], 0⟩ token sent)⟩

/-- With a token the exit code says whether all requests were answered as they expect, and if not,
the last line that is shown names the one that failed. -/
theorem runRequests_exit {token : String} {sent : List Dispatch}
    (h : Login.token (server env).session settings [] = (.ok token, sent)) {code : Nat}
    (hcode : (runRequests (packages.reaching server) identifier env o settings requests []).ending =
      .exit code) :
    let run := runRequests (packages.reaching server) identifier env o settings requests []
    (code = 0 ↔ ∃ ds, run.link = sent ++ delivered ds ∧
        Answered (server env) settings.timeout token sent requests ds) ∧
      (code ≠ 0 → code = 1 ∧ ∃ n r why ds last, requests[n]? = some r ∧
        run.link = sent ++ delivered (ds ++ last) ∧
        Answered (server env) settings.timeout token sent (requests.take n) ds ∧
        r.Fails (server env) settings.timeout token (sent ++ delivered ds) why last ∧
        (shown run.outputs).getLast? = some ("ERROR: " ++ s!"step {n + 1}: {why.message}")) := by
  obtain ⟨run, hrun, hdelivers⟩ := runRequests_of_token packages identifier o requests h
  rw [hrun] at hcode ⊢
  have hcrash : ∀ why, run.ending ≠ .crashed why := by
    intro why hwhy
    simp [conclude, hwhy, endingOf] at hcode
  -- Since there is an exit code, the run did not crash: it completed, or a request failed.
  have hiff := hdelivers.completed_iff hcrash
  simp only [conclude, shown_append] at hcode ⊢
  rw [← hiff]
  generalize run.ending = ending, run.position.link = all at hdelivers hcode hcrash ⊢
  cases hdelivers with
  | completed answered =>
    cases hcode
    exact ⟨⟨fun _ => ⟨_, rfl⟩, fun _ => rfl⟩, fun hne => absurd rfl hne⟩
  | failed begun answered fails =>
    cases hcode
    rw [Nat.zero_add]
    refine ⟨⟨fun hzero => (by cases hzero), fun ⟨_, hsteps⟩ => (by cases hsteps)⟩,
      fun _ => ⟨rfl, _, _, _, _, _, begun, rfl, answered, fails, ?_⟩⟩
    exact List.getLast?_concat
  | crashed => exact absurd rfl (hcrash _)

/-- Captures show only by what they write. -/
theorem runRequests_capturesAlike {token : String} {sent : List Dispatch}
    (h : Login.token (server env).session settings [] = (.ok token, sent))
    (hsent : sent.length = 1) {requests' : List Request}
    (halike : CapturesAlike (server env) packages.evaluate 1 requests requests') :
    let run := runRequests (packages.reaching server) identifier env o settings requests []
    let other := runRequests (packages.reaching server) identifier env o settings requests' []
    other.ending = run.ending ∧ other.link = run.link ∧ shown other.outputs = shown run.outputs := by
  have hlogin := login_of_token (packages.reaching server) identifier o h
  rw [runRequests, runRequests, execute_of_token hlogin, execute_of_token hlogin]
  let s := setup (packages.reaching server) identifier env o settings
  have hsteps := Run.steps_capturesAlike (handler_setup packages identifier o settings)
    (runLog s ⟨{}, [], 0⟩) halike (loggedIn s ⟨{}, [], 0⟩ token sent) hsent
  exact conclude_sameButLog o ⟨hsteps.ending, hsteps.position, hsteps.seen⟩

end

/-! ### The whole program -/

/-- A server that gives a token, then one good answer. -/
def fickleServer : Server where
  prepare _ method url body :=
    .ok ⟨method, url, .ofList [("Accept", "*/*"), ("Connection", "keep-alive")], body⟩
  route _ _ := .ok {}
  answer sent d := .ok ⟨if sent.length = 1 then 200 else 404, d.url, "no", [], some "Status"⟩
  login _ _ := .ok ⟨200, .ok ⟨.object [("token", .string "t")], by decide +kernel⟩⟩

/-- Packages for a place without files for the environment and for the settings. -/
def plainPackages : Packages (List Dispatch) where
  session _ := fickleServer.session
  evaluate _ document := ⟨[document], .done⟩
  reader := Settings.emptyReader
  environmentFile s := .ok (s.environment, [])

/-- A directory that holds a script, and no file with settings. -/
def directoryOf (script : String) : Surroundings where
  files := fun path =>
    if path = "script" then .file (Text.Utf8.encode script.toList) else .missing
  above := 0
  environment := [("apiUrl", "http://host")]

def hostSettings : Settings := { apiUrl := "http://host" }

def plainly : Options := { script := "script" }

theorem configuration_directoryOf (script : String) :
    ((directoryOf script).configuration plainPackages.environmentFile plainPackages.reader none).2 =
      .ok ([("apiUrl", "http://host")], hostSettings) := by
  have hplace : Settings.defaultPath "" ≠ "script" := by decide +kernel
  have hmissing : (directoryOf script).files (Settings.defaultPath "") = .missing := by
    simp only [directoryOf, if_neg hplace]
  have hentries : Settings.entries plainPackages.reader (directoryOf script).files "" none =
      .ok [] := by
    rw [Settings.entries]
    simp only [Option.map_none, Option.getD_none, hmissing]
    rfl
  have hhome : Surroundings.home (directoryOf script) = "" := by
    simp [Surroundings.home, directoryOf, Entries.get?]
  have hsettings : Settings.ofValues [("apiUrl", "http://host")] [] = .ok hostSettings := rfl
  rw [Surroundings.configuration]
  simp only [plainPackages] at hentries ⊢
  rw [hhome, Settings.load, hentries]
  exact congrArg (Except.map fun settings => ([("apiUrl", "http://host")], settings)) hsettings

/-- Two requests, of which the first has a capture. -/
def capturing : Surroundings :=
  directoryOf "get http://host/a\nsave x .x\n\nget http://host/b\nhttp 200\n"

def notCapturing : Surroundings :=
  directoryOf "get http://host/a\n\n\nget http://host/b\nhttp 200\n"

def twoRequests (captures : List Field) : List Request := [
  { method := "GET", url := "http://host/a", captures := captures, line := 1 },
  { method := "GET", url := "http://host/b", expectedStatus := 200, line := 4 }]

end Program

end HttpScript
