import HttpScript.Entries
import HttpScript.Files

/-!
# What a program finds around it

Files as they are seen from the working directory, how many directories lie above that one, and the
variables of the process. An environment file may define further variables.
-/
namespace HttpScript

abbrev Environment := List (String × String)

structure Surroundings where
  files : Files
  above : Nat
  environment : Environment

namespace Surroundings

/-- The variable that names the home directory. -/
def home (s : Surroundings) : String := (Entries.get? "HOME" s.environment).getD ""

end Surroundings

/-- How environment files are read: the variables with those of the file, and warnings about the
file; or why it cannot be read. -/
abbrev EnvironmentFile := Surroundings → Except String (Environment × List String)

end HttpScript
