import HttpScript.Yaml.Value

/-!
# Readers of documents

How settings files are read is left to a reader of YAML.
-/
namespace HttpScript.Yaml

/-- Why a document is refused. -/
inductive Refusal where
  /-- The text is no YAML. -/
  | malformed (why : String)
  /-- The text is YAML, but a value in it cannot be formed. -/
  | other (why : String)
  deriving Repr, DecidableEq

structure Reader where
  read : List Char → Except Refusal Value
  /-- Files are read in parts. Of a file with bytes that are no text, what stands before these bytes
  may be refused already. -/
  refusesEarly : List UInt8 → Option String

end HttpScript.Yaml
