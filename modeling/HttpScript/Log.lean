import HttpScript.Entries
import HttpScript.Text.Literal
import HttpScript.Text.Case

/-!
# Records of what a run does

A record has a level, the name of an event, and fields. A logger carries fields of its own, which
come first in every record. Values that identify a user are masked before they get into a record.
-/
namespace HttpScript

inductive Level where
  | debug
  | info
  | warning
  | error
  deriving Repr, DecidableEq

def Level.name : Level → String
  | .debug => "DEBUG"
  | .info => "INFO"
  | .warning => "WARNING"
  | .error => "ERROR"

def Level.all : List Level := [.debug, .info, .warning, .error]

/-- The importance of a level: what is shown lies at or above a threshold. -/
def Level.rank : Level → Nat
  | .debug => 10
  | .info => 20
  | .warning => 30
  | .error => 40

abbrev LogFields := List (String × Text.Literal)

structure Record where
  level : Level
  event : String
  fields : LogFields
  deriving Repr

structure Logger where
  bound : LogFields := []
  deriving Repr

namespace Logger

/-- A logger with further fields of its own. -/
def bind (log : Logger) (fields : LogFields) : Logger := ⟨Entries.putAll log.bound fields⟩

/-- The record of an event: the logger's fields, those of the event, and the name of the event as
`type` unless a field has that name. -/
def record (log : Logger) (level : Level) (event : String) (fields : LogFields) : Record :=
  ⟨level, event, Entries.putNew "type" (.text event) (Entries.putAll log.bound fields)⟩

end Logger

/-- Headers whose values must not be seen. -/
def secretHeaders : List String :=
  ["authorization", "proxy-authorization", "x-api-key", "cookie", "set-cookie"]

def isSecret (name : String) : Bool :=
  secretHeaders.any fun s => s.toList == Text.lower name.toList

/-- The value of a header as it may be seen. -/
def mask (name : String) (value : Text.Literal) : Text.Literal :=
  match value with
  | .none => .none
  | value => if isSecret name then .text "********" else value

/-- Headers as they may be seen. -/
def maskHeaders (headers : List (String × String)) : Text.Literal :=
  .list (headers.map fun h => .tuple [.text h.1, mask h.1 (.text h.2)])

end HttpScript
