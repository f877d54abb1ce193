import HttpScript.Files
import HttpScript.Script.Reader
import HttpScript.Text.Utf8

/-!
# Scripts in files
-/
namespace HttpScript

/-- Why a file gives no script. -/
inductive LoadFault where
  | notFound
  | undecodable (fault : Text.Utf8.Fault)
  | script (fault : ScriptFault)
  deriving Repr, DecidableEq

/-- The message for a file that was not read. -/
def notFoundMessage (path : String) : String := "Script file not found: " ++ path

def undecodableMessage (fault : Text.Utf8.Fault) : String := "could not read file: " ++ fault.message

/-- The requests of a script file. Every kind of line end ends a line. -/
def loadScript (entry : Entry) : Except LoadFault (List Request) :=
  match entry with
  | .file content =>
    match Text.Utf8.decode content with
    | .error fault => .error (.undecodable fault)
    | .ok text => (readScript (Text.unifyLineEnds text)).mapError .script
  | _ => .error .notFound

end HttpScript
