import HttpScript.Log
import HttpScript.Text.Case

/-!
# Arguments

The command line of the program: one script and some options. Options may stand anywhere, long ones
may be shortened as long as they stay unambiguous, and short ones may be joined. After two dashes
every argument is a word.
-/
namespace HttpScript

structure Options where
  script : String
  config : Option String := none
  raw : Bool := false
  showHeaders : Bool := false
  quiet : Bool := false
  level : Level := .warning
  deriving Repr, DecidableEq

inductive Switch where
  | help
  | config
  | raw
  | header
  | quiet
  | logLevel
  deriving Repr, DecidableEq

namespace Switch

def names : Switch → List String
  | .help => ["-h", "--help"]
  | .config => ["--config"]
  | .raw => ["--raw"]
  | .header => ["-H", "--header"]
  | .quiet => ["-q", "--quiet"]
  | .logLevel => ["--log-level"]

def takesValue : Switch → Bool
  | .config | .logLevel => true
  | _ => false

def all : List Switch := [.help, .config, .raw, .header, .quiet, .logLevel]

/-- All names with their switches. -/
def table : List (String × Switch) := all.flatMap fun s => s.names.map fun name => (name, s)

def ofName? (name : String) : Option Switch := Entries.get? name table

/-- The switch as it is called in messages. -/
def display (s : Switch) : String := "/".intercalate s.names

end Switch

/-- Why a command line is refused. -/
inductive UsageFault where
  | ambiguous (argument : String) (candidates : List String)
  | uselessValue (s : Switch) (value : String)
  | missingValue (s : Switch)
  | unknownLevel (value : String)
  | missingScript
  | unrecognized (words : List String)
  deriving Repr, DecidableEq

def UsageFault.message : UsageFault → String
  | .ambiguous argument candidates =>
    s!"ambiguous option: {argument} could match " ++ ", ".intercalate candidates
  | .uselessValue s value =>
    s!"argument {s.display}: ignored explicit argument {Text.quoted value}"
  | .missingValue s => s!"argument {s.display}: expected one argument"
  | .unknownLevel value =>
    s!"argument {Switch.logLevel.display}: invalid choice: {Text.quoted value} (choose from " ++
      ", ".intercalate (Level.all.map fun l => Text.quoted l.name) ++ ")"
  | .missingScript => "the following arguments are required: script"
  | .unrecognized words => "unrecognized arguments: " ++ " ".intercalate words

/-! ## Single arguments -/

/-- The use of a switch: the name it was given by, and the value that came with it. -/
structure Use where
  switch : Switch
  name : String
  value : Option String
  deriving Repr, DecidableEq

inductive Argument where
  | word (s : String)
  | separator
  | option (u : Use)
  /-- What looks like an option but is none. -/
  | unknown (s : String)
  deriving Repr, DecidableEq

namespace Argument

/-- The parts before and after the first equals sign. -/
def splitEquals (s : String) : String × Option String :=
  let cs := s.toList
  let name := cs.takeWhile (· != '=')
  match cs.drop name.length with
  | _ :: value => (.ofList name, some (.ofList value))
  | [] => (s, none)

def isLong (s : String) : Bool := "--".toList.isPrefixOf s.toList

/-- The switches that a shortened or a joined argument may mean. -/
def candidates (s : String) : List Use :=
  if isLong s then
    let (start, value) := splitEquals s
    (Switch.table.filter fun e => start.toList.isPrefixOf e.1.toList).map fun e =>
      ⟨e.2, e.1, value⟩
  else
    let cs := s.toList
    Switch.table.filterMap fun e =>
      if e.1.toList == cs.take 2 then some ⟨e.2, e.1, some (.ofList (cs.drop 2))⟩
      else if cs.isPrefixOf e.1.toList then some ⟨e.2, e.1, none⟩
      else none

/-- A negative number is a word. -/
def isNegativeNumber (s : List Char) : Bool :=
  match s with
  | '-' :: s =>
    let whole := s.takeWhile Char.isDigit
    match s.drop whole.length with
    | [] => !whole.isEmpty
    | '.' :: places => !places.isEmpty && places.all Char.isDigit
    | _ => false
  | _ => false

/-- What an argument is, before the separator. -/
def classify (s : String) : Except UsageFault Argument :=
  let cs := s.toList
  if cs.head? != some '-' || cs.length == 1 then .ok (.word s)
  else
    match Switch.ofName? s with
    | some switch => .ok (.option ⟨switch, s, none⟩)
    | none =>
      let (name, value) := splitEquals s
      match value, Switch.ofName? name with
      | some value, some switch => .ok (.option ⟨switch, name, some value⟩)
      | _, _ =>
        match candidates s with
        | [u] => .ok (.option u)
        | [] =>
          if isNegativeNumber cs || cs.contains ' ' then .ok (.word s) else .ok (.unknown s)
        | us => .error (.ambiguous s (us.map Use.name))

/-- What all arguments are. -/
def classifyAll : List String → Except UsageFault (List Argument)
  | [] => .ok []
  | s :: rest =>
    if s == "--" then .ok (.separator :: rest.map .word)
    else do
      let a ← classify s
      return a :: (← classifyAll rest)

end Argument

/-! ## Joined switches -/

/-- The switches that one argument joins: each takes a letter from the value of the one before.
Only the last may have a value. -/
def Use.expand : Nat → Use → Except UsageFault (List Use)
  | 0, u => .ok [u]
  | fuel + 1, u =>
    match u.value with
    | none => .ok [u]
    | some value =>
      if u.switch.takesValue then .ok [u]
      else
        let refused : Except UsageFault (List Use) := .error (.uselessValue u.switch value)
        match Argument.isLong u.name, value.toList with
        | false, c :: rest =>
          let name := String.ofList ['-', c]
          match Switch.ofName? name with
          | none => refused
          | some switch => do
            let next : Use := ⟨switch, name, if rest.isEmpty then none else some (.ofList rest)⟩
            let more ← next.expand fuel
            return { u with value := none } :: more
        | _, _ => refused

/-! ## The whole line -/

/-- What has been read of a command line. -/
structure Reading where
  script : Option String := none
  config : Option String := none
  raw : Bool := false
  showHeaders : Bool := false
  quiet : Bool := false
  level : Level := .warning
  /-- Arguments that belong to nothing. -/
  extra : List String := []

namespace Reading

/-- The level with a name, in any letter case. -/
def levelOf (value : String) : Except UsageFault Level :=
  let name := String.ofList (Text.upper value.toList)
  match Level.all.find? fun l => l.name == name with
  | some l => .ok l
  | none => .error (.unknownLevel name)

/-- Apply a switch with its value. -/
def apply (r : Reading) (s : Switch) (value : String) : Except UsageFault Reading :=
  match s with
  | .help => .ok r
  | .config => .ok { r with config := some value }
  | .raw => .ok { r with raw := true }
  | .header => .ok { r with showHeaders := true }
  | .quiet => .ok { r with quiet := true }
  | .logLevel => (levelOf value).map fun l => { r with level := l }

/-- Apply joined switches; nothing if help is asked for. -/
def applyAll : List Use → Reading → Except UsageFault (Option Reading)
  | [], r => .ok (some r)
  | u :: rest, r =>
    if u.switch == .help then .ok none
    else do applyAll rest (← r.apply u.switch (u.value.getD ""))

/-- Read the arguments: `atScript` tells that the script was the last one. Nothing if help is asked
for. -/
def arguments (atScript : Bool) : List Argument → Reading → Except UsageFault (Option Reading)
  | [], r => .ok (some r)
  | .word s :: rest, r =>
    if r.script.isNone then arguments true rest { r with script := some s }
    else arguments false rest { r with extra := r.extra ++ [s] }
  | .separator :: .word s :: rest, r =>
    if r.script.isNone then arguments true rest { r with script := some s }
    else arguments false rest
      { r with extra := r.extra ++ (if atScript then [s] else ["--", s]) }
  | .separator :: rest, r =>
    arguments false rest (if atScript then r else { r with extra := r.extra ++ ["--"] })
  | .unknown s :: rest, r => arguments false rest { r with extra := r.extra ++ [s] }
  | .option u :: rest, r => do
    let uses ← u.expand ((u.value.getD "").length + 1)
    match uses.getLast? with
    | none => arguments false rest r
    | some last =>
      if last.switch.takesValue && last.value.isNone then
        match rest with
        | .word s :: rest =>
          match ← applyAll (uses.dropLast ++ [{ last with value := some s }]) r with
          | some r => arguments false rest r
          | none => return none
        | _ => .error (.missingValue last.switch)
      else
        match ← applyAll uses r with
        | some r => arguments false rest r
        | none => return none

end Reading

/-- Read a command line: its options, or nothing if help is asked for. -/
def Options.ofArguments (args : List String) : Except UsageFault (Option Options) := do
  match ← Reading.arguments false (← Argument.classifyAll args) {} with
  | none => return none
  | some r =>
    match r.script with
    | none => .error .missingScript
    | some script =>
      if r.extra.isEmpty then
        return some ⟨script, r.config, r.raw, r.showHeaders, r.quiet, r.level⟩
      else .error (.unrecognized r.extra)

/-! ## Texts -/

def usage : List String := [
  "usage: nugget [-h] [--config CONFIG] [--raw] [-H] [-q]",
  "              [--log-level \x7bDEBUG,INFO,WARNING,ERROR\x7d]",
  "              script"]

def help : List String := usage ++ [
  "",
  "Run API requests. Chains the requests defined in a script file.",
  "",
  "positional arguments:",
  "  script                script file with the requests to run",
  "",
  "options:",
  "  -h, --help            show this help message and exit",
  "  --config CONFIG       config file (default is $HOME/.nugget.yaml)",
  "  --raw                 raw output",
  "  -H, --header          print response headers",
  "  -q, --quiet           display less output",
  "  --log-level \x7bDEBUG,INFO,WARNING,ERROR\x7d"]

/-- What is said about a command line that is refused. -/
def UsageFault.report (fault : UsageFault) : List String :=
  usage ++ ["nugget: error: " ++ fault.message]

end HttpScript
