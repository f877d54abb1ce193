import HttpScript.CommandLine.Arguments
import HttpScript.Login
import HttpScript.Run.Execute
import HttpScript.Script.Load
import HttpScript.Script.Problem

/-!
# The program

A command line is read, then the script, then the settings; nothing is sent unless all three are in
order. The exit code is 0 if every request passed, 2 if the command line is refused, else 1.
-/
namespace HttpScript

/-- What the program relies on for what it does not do itself. -/
structure Packages (σ : Type) where
  /-- The sessions in an environment. -/
  session : Environment → Session σ
  evaluate : Evaluator
  reader : Yaml.Reader
  environmentFile : EnvironmentFile

/-- What the program does that can be seen, in the order in which it happens. -/
inductive Output where
  | shown (lines : List String)
  /-- Lines on the error output. -/
  | noted (lines : List String)
  | sent (message : Outgoing)
  | paused (seconds : Float)
  deriving Repr

/-- What stops the program without an exit code of its own. -/
inductive Stop where
  | longInteger (digits : Nat)
  | settings (fault : SettingsFault)
  | run (why : Crash)
  deriving Repr, DecidableEq

def Stop.message : Stop → String
  | .longInteger digits => Json.longIntegerMessage digits
  | .settings fault => fault.message
  | .run why => why.message

inductive ProgramEnd where
  | exit (code : Nat)
  | stopped (why : Stop)
  deriving Repr, DecidableEq

structure ProgramRun (σ : Type) where
  ending : ProgramEnd
  outputs : List Output
  link : σ

namespace Program

/-- A record on one line: its level, filled up to seven characters, its event and its fields. -/
def recordLine (r : Record) : String :=
  let level := r.level.name ++ String.ofList (List.replicate (7 - r.level.name.length) ' ')
  let fields := Text.Literal.table (r.fields.map fun f => (.text f.1, f.2))
  s!"{level} | {r.event} {fields.write}"

/-- What is seen of a run when records below a level are left out. -/
def outputOf (level : Level) : Effect → Option Output
  | .logged r => if level.rank ≤ r.level.rank then some (.noted [recordLine r]) else none
  | .sent message => some (.sent message)
  | .printed lines => some (.shown lines)
  | .slept seconds => some (.paused seconds)

def errorLine (message : String) : Output := .shown ["ERROR: " ++ message]

/-- What is said about a run that did not complete. -/
def failureMessage : RunEnd → Option String
  | .stepFailed step why => some s!"step {step}: {why.message}"
  | e => e.message?

/-- Everything that has to be in order before anything is sent. -/
inductive Obstacle where
  | usage (fault : UsageFault)
  | load (path : String) (fault : LoadFault)
  | problems (found : List Problem)
  | settings (fault : SettingsFault)

namespace Obstacle

def report : Obstacle → ProgramEnd × List Output
  | .usage fault => (.exit 2, [.noted fault.report])
  | .load path .notFound => (.exit 1, [errorLine (notFoundMessage path)])
  | .load _ (.undecodable fault) => (.exit 1, [errorLine (undecodableMessage fault)])
  | .load path (.script (.syntaxError e)) => (.exit 1, [.shown [(e.diagnostic (some path)).render]])
  | .load _ (.script (.longInteger digits)) => (.stopped (.longInteger digits), [])
  | .problems found => (.exit 1, found.map fun p => errorLine p.message)
  | .settings fault =>
    if fault.isExpected then (.exit 1, [errorLine fault.message])
    else (.stopped (.settings fault), [])

end Obstacle

/-- The requests of a script that has no problems. -/
def requests (s : Surroundings) (path : String) : Except Obstacle (List Request) := do
  let requests ← (loadScript (s.files path)).mapError (.load path)
  let found := problems requests
  if found.isEmpty then return requests else .error (.problems found)

/-- How the run of a script ended, as an exit code. -/
def endingOf : RunEnd → ProgramEnd × List Output
  | .completed _ => (.exit 0, [])
  | .crashed why => (.stopped (.run why), [])
  | e => (.exit 1, ((failureMessage e).map errorLine).toList)

/-- The parties of a run. -/
def setup {σ : Type} (packages : Packages σ) (identifier : Nat → String) (env : Environment)
    (o : Options) (settings : Settings) : Setup σ :=
  let session := packages.session env
  let client : Client σ := ⟨session, settings.timeout⟩
  let console : Console := ⟨o.raw, o.showHeaders, o.quiet⟩
  { handler := Handler.sending client.transport packages.evaluate console
    login := fun link =>
      let (result, link) := Login.token session settings link
      (result.mapError LoginFault.message, link)
    console := console
    log := {}
    identifier := identifier }

/-- What the program makes of a run. -/
def conclude {σ : Type} (o : Options) (run : Run σ) : ProgramRun σ :=
  let (ending, last) := endingOf run.ending
  ⟨ending, run.journal.filterMap (outputOf o.level) ++ last, run.position.link⟩

/-- Run the requests of a script with settings. -/
def runRequests {σ : Type} (packages : Packages σ) (identifier : Nat → String)
    (env : Environment) (o : Options) (settings : Settings) (requests : List Request) (link : σ) :
    ProgramRun σ :=
  conclude o (execute (setup packages identifier env o settings) requests ⟨{}, link, 0⟩)

/-- Run the program with options. -/
def runOptions {σ : Type} (packages : Packages σ) (s : Surroundings) (identifier : Nat → String)
    (o : Options) (link : σ) : ProgramRun σ :=
  let stop (warnings : List String) (obstacle : Obstacle) : ProgramRun σ :=
    let (ending, outputs) := obstacle.report
    ⟨ending, .noted warnings :: outputs, link⟩
  match requests s o.script with
  | .error obstacle => stop [] obstacle
  | .ok requests =>
    match s.configuration packages.environmentFile packages.reader o.config with
    | (warnings, .error fault) => stop warnings (.settings fault)
    | (warnings, .ok (env, settings)) =>
      let run := runRequests packages identifier env o settings requests link
      { run with outputs := .noted warnings :: run.outputs }

/-- The paths that the program may look at. -/
def paths (args : List String) (home : String) (above : Nat) : List String :=
  let named := match Options.ofArguments args with
    | .ok (some o) => [o.script, (o.config.map tidyPath).getD (Settings.defaultPath home)]
    | _ => []
  named ++ (List.range (above + 1)).map fun n => String.join (List.replicate n "../") ++ ".env"

/-- The variables that the program looks at itself. -/
def variableNames : List String :=
  ["HOME"] ++
  [Settings.apiUrlKey, Settings.clientIdKey, Settings.apiKeyKey, Settings.timeoutKey].map
    Settings.Key.inEnvironment

/-- Run the program. -/
def run {σ : Type} (packages : Packages σ) (s : Surroundings) (identifier : Nat → String)
    (args : List String) (link : σ) : ProgramRun σ :=
  match Options.ofArguments args with
  | .error fault =>
    let (ending, outputs) := (Obstacle.usage fault).report
    ⟨ending, outputs, link⟩
  | .ok none => ⟨.exit 0, [.shown help], link⟩
  | .ok (some o) => runOptions packages s identifier o link

end Program

end HttpScript
