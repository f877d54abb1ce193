import HttpScript.Script.Request
import HttpScript.Json.Reader

/-!
# Syntax errors of a script

An error names what is wrong, the line, and a column counted from one in the line as it stands.
-/
namespace HttpScript

inductive SyntaxFault where
  | unknownSymbol
  | expectingMethod
  | expectingUrl
  | expectedNumber
  | expectedIdentifier
  | expectedValue
  | malformedBody (what : Json.Malformation)
  | nonFiniteBody (what : Json.NonFinite)
  deriving Repr, DecidableEq

def SyntaxFault.message : SyntaxFault → String
  | .unknownSymbol => "Unknown symbol."
  | .expectingMethod => "Expecting http method."
  | .expectingUrl => "Expecting url."
  | .expectedNumber => "Expected number."
  | .expectedIdentifier => "Expected identifier."
  | .expectedValue => "Expected value."
  | .malformedBody what => s!"JSON syntax error: {what.message}."
  | .nonFiniteBody what => s!"JSON syntax error: invalid JSON literal: {what.literal}."

structure SyntaxError where
  fault : SyntaxFault
  line : Nat
  column : Nat
  source : List Char
  deriving Repr, DecidableEq

/-- A message about a place in a file, as it is shown: the line with a caret under the column. -/
structure Diagnostic where
  message : String
  line : Int
  column : Int
  source : String
  path : Option String
  deriving Repr, DecidableEq

def SyntaxError.diagnostic (path : Option String) (e : SyntaxError) : Diagnostic :=
  ⟨e.fault.message, e.line, e.column, .ofList e.source, path⟩

namespace Diagnostic

/-- What stands before the source line. -/
def margin (d : Diagnostic) : String := s!"   {d.line} | "

def render (d : Diagnostic) : String :=
  let heading := match d.path with
    | none | some "" => []
    | some path => [s!"{path}:{d.line}:{d.column}"]
  let caret := String.ofList (List.replicate (d.margin.length + d.column - 1).toNat ' ') ++ "^"
  "\n".intercalate (heading ++ [s!"Invalid syntax at position {d.column}.", d.margin ++ d.source,
    caret, d.message])

end Diagnostic

end HttpScript
