import HttpScript.Decimal.Reading
import HttpScript.Json.Printer
import HttpScript.Surroundings
import HttpScript.Text.Utf8
import HttpScript.Yaml.Reader

/-!
# Settings

Where the server is, who asks, and how long to wait. A setting comes from the environment or, if it
is not set there, from a settings file.
-/
namespace HttpScript

structure Settings where
  apiUrl : String := ""
  clientId : String := ""
  apiKey : String := ""
  timeout : Option Float := none
  deriving Repr

/-- Why there are no settings. -/
inductive SettingsFault where
  | notFound (path : String)
  | directory (path : String)
  | malformed (path why : String)
  | noMap (path : String)
  | noNumber (raw : String)
  | notPositive (raw : String)
  /-- The bytes of a file are no text. -/
  | undecodable (fault : Text.Utf8.Fault)
  /-- A value in the file cannot be formed. -/
  | noValue (why : String)
  /-- An environment file cannot be read. -/
  | environmentFile (why : String)
  | hugeInteger
  /-- A value with no text is to be shown. -/
  | longInteger
  deriving Repr, DecidableEq

namespace SettingsFault

def invalidMessage (path : String) : String := "Config file is invalid: " ++ path

def message : SettingsFault → String
  | .notFound path => "Config file not found: " ++ path
  | .directory path =>
    invalidMessage path ++ ": [Errno 21] Is a directory: " ++ Text.quoted path
  | .malformed path why => invalidMessage path ++ ": " ++ why
  | .noMap path => invalidMessage path
  | .noNumber raw => "timeout_sec must be a number: " ++ raw
  | .notPositive raw => "timeout_sec must be positive: " ++ raw
  | .undecodable fault => fault.message
  | .noValue why => why
  | .environmentFile why => why
  | .hugeInteger => "int too large to convert to float"
  | .longInteger => Json.NumberFault.longInteger.message

/-- The fault is one that settings are expected to have. The others come from what a file holds. -/
def isExpected : SettingsFault → Bool
  | .undecodable _ | .noValue _ | .environmentFile _ | .hugeInteger | .longInteger => false
  | _ => true

end SettingsFault

namespace Settings

/-- A setting: its names in the environment and in the file. -/
structure Key where
  inEnvironment : String
  inFile : String

def apiUrlKey : Key := ⟨"apiUrl", "apiUrl"⟩
def clientIdKey : Key := ⟨"clientId", "clientId"⟩
def apiKeyKey : Key := ⟨"apiKey", "apiKey"⟩
def timeoutKey : Key := ⟨"NUGGET_TIMEOUT_SEC", "timeout_sec"⟩

/-- A value counts as set unless it is null or an empty text. -/
def isSet : Yaml.Value → Bool
  | .null => false
  | .text s => !s.isEmpty
  | _ => true

/-- The value of a setting, from the environment if it is set there. -/
def find? (env : Environment) (file : List (Yaml.Value × Yaml.Value)) (key : Key) :
    Option Yaml.Value :=
  match Entries.get? key.inEnvironment env with
  | some s => if s.isEmpty then fromFile else some (.text s)
  | none => fromFile
where
  fromFile := (Yaml.Value.field? key.inFile file).filter isSet

/-- The number that a value is. -/
def number? : Yaml.Value → Except SettingsFault (Option Float)
  | .bool b => .ok (some (if b then 1.0 else 0.0))
  | .int n =>
    match Decimal.ofInt? n with
    | some x => .ok (some x)
    | none => .error .hugeInteger
  | .float x => .ok (some x)
  | .text s => .ok (Decimal.ofText? s.toList)
  | .bytes content =>
    .ok (Decimal.ofText? (content.map fun b => if b < 0x80 then Char.ofNat b.toNat else '?'))
  | _ => .ok none

/-- The text of a value in one of its forms, if it has one. -/
def shown (form : Yaml.Value → String) (v : Yaml.Value) : Except SettingsFault String :=
  if v.isWritable then .ok (form v) else .error .longInteger

/-- A time to wait must be a number, and not zero or less. -/
def timeoutOf (raw : Yaml.Value) : Except SettingsFault Float := do
  match ← number? raw with
  | none => .error (.noNumber (← shown Yaml.Value.write raw))
  | some x =>
    if x ≤ 0.0 then .error (.notPositive (← shown Yaml.Value.write raw)) else .ok x

/-- A setting that is a text. It is empty when it is not set. -/
def textOf (env : Environment) (file : List (Yaml.Value × Yaml.Value)) (key : Key) :
    Except SettingsFault String :=
  match find? env file key with
  | none => .ok ""
  | some v => shown Yaml.Value.display v

/-- Settings from an environment and the entries of a settings file. -/
def ofValues (env : Environment) (file : List (Yaml.Value × Yaml.Value)) :
    Except SettingsFault Settings := do
  let timeout ← (find? env file timeoutKey).mapM timeoutOf
  let apiUrl ← textOf env file apiUrlKey
  let clientId ← textOf env file clientIdKey
  let apiKey ← textOf env file apiKeyKey
  return ⟨apiUrl, clientId, apiKey, timeout⟩

/-- Settings files are read in parts of so many bytes. -/
def partSize : Nat := 8192

/-- The entries of a settings file. A file without a value has none. -/
def readFile (reader : Yaml.Reader) (path : String) (content : List UInt8) :
    Except SettingsFault (List (Yaml.Value × Yaml.Value)) :=
  match Text.Utf8.decodeParts partSize [] content with
  | .error fault =>
    match reader.refusesEarly content with
    | some why => .error (.malformed path why)
    | none => .error (.undecodable fault)
  | .ok text =>
    match reader.read (Text.unifyLineEnds text) with
    | .error (.malformed why) => .error (.malformed path why)
    | .error (.other why) => .error (.noValue why)
    | .ok .null => .ok []
    | .ok (.map entries) => .ok entries
    | .ok _ => .error (.noMap path)

/-- The settings file in a home directory. -/
def defaultPath (home : String) : String :=
  tidyPath (String.ofList (Text.dropRightWhile (· == '/') home.toList) ++ "/.nugget.yaml")

/-- The entries of the settings file. Only a file that was asked for has to be there. -/
def entries (reader : Yaml.Reader) (files : Files) (home : String) (path : Option String) :
    Except SettingsFault (List (Yaml.Value × Yaml.Value)) :=
  let place := (path.map tidyPath).getD (defaultPath home)
  match files place with
  | .missing => if path.isSome then .error (.notFound place) else .ok []
  | .directory => .error (.directory place)
  | .file content => readFile reader place content

/-- Load the settings. -/
def load (reader : Yaml.Reader) (files : Files) (home : String) (env : Environment)
    (path : Option String) : Except SettingsFault Settings := do
  ofValues env (← entries reader files home path)

end Settings

/-- The variables of the process with those of an environment file, and the settings that come from
them and from the settings file; before that, the warnings about the environment file. -/
def Surroundings.configuration (s : Surroundings) (environmentFile : EnvironmentFile)
    (reader : Yaml.Reader) (path : Option String) :
    List String × Except SettingsFault (Environment × Settings) :=
  match environmentFile s with
  | .error why => ([], .error (.environmentFile why))
  | .ok (env, warnings) =>
    let home := Surroundings.home { s with environment := env }
    (warnings, (Settings.load reader s.files home env path).map fun settings => (env, settings))

end HttpScript
