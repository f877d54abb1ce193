import HttpScript.CommandLine.Program
import HttpScript.Environment
import HttpScript.Http.DirectSession
import HttpScript.Query.Evaluate
import HttpScript.Yaml.Document

/-!
# Running with the answers so far

The program takes its answers from a list. When the list ends, the delivery that waits for the next
answer is kept; everything up to the last message was then settled, and the program can be run again
with one answer more.
-/
namespace HttpScript

/-- Answers that are left, and the delivery that found none. -/
structure Replay where
  answers : List (Except String RawReply)
  pending : Option Delivery

namespace Replay

abbrev Answers := List (Except String RawReply)

def network : Network Replay := fun d link =>
  match link.answers with
  | answer :: rest => (answer, { link with answers := rest })
  | [] => (.error "no answer yet", { link with pending := some d })

/-- What stands in the place of packages when the program runs over a network. -/
def packagesOn {σ : Type} (network : Network σ) : Packages σ where
  session env := DirectSession.session ⟨env, DirectSession.usualHeaders⟩ network
  evaluate := Query.evaluate
  reader := Yaml.reader
  environmentFile := Environment.file

/-- The variables that may be looked at, besides those that an environment file mentions. -/
def variableNames : List String := Program.variableNames ++ DirectSession.variableNames

def isMessage : Output → Bool
  | .sent _ => true
  | _ => false

/-- What a run has done for good. While a delivery waits, nothing after the last message counts. -/
def settled (run : ProgramRun Replay) : List Output :=
  if run.link.pending.isSome then
    (run.outputs.reverse.dropWhile fun o => !isMessage o).reverse
  else run.outputs

def digits (width n : Nat) : List Char :=
  let ds := Nat.toDigits 16 (n % Nat.pow 16 width)
  List.replicate (width - ds.length) '0' ++ ds

/-- The identifier with a number, counted on from a seed: thirty-two digits in five groups, of which
two digits tell that it was drawn at random. -/
def identifier (seed n : Nat) : String :=
  let n := seed + n
  let variant := ['8', '9', 'a', 'b'].getD (n / Nat.pow 16 30 % 4) '8'
  let group (width place : Nat) : List Char := digits width (n / Nat.pow 16 place)
  .ofList (group 8 22 ++ '-' :: group 4 18 ++ '-' :: '4' ::
    group 3 15 ++ '-' :: variant :: group 3 12 ++ '-' :: group 12 0)

end Replay

end HttpScript
