import HttpScript.Text.Blank

/-!
# Files

What stands at a path, and a tree of files as a value.
-/
namespace HttpScript

/-- What stands at a path. -/
inductive Entry where
  | missing
  | directory
  | file (content : List UInt8)
  deriving Repr, DecidableEq

/-- The files that can be seen, by path. -/
abbrev Files := String → Entry

/-- The names that a path goes through. Repeated slashes and the name `.` lead nowhere. -/
def pathNames (path : String) : List String :=
  ((Text.splitOn '/' path.toList).map String.ofList).filter fun s => s != "" && s != "."

/-- A path without what leads nowhere. -/
def tidyPath (path : String) : String :=
  let root := match path.toList with
    | '/' :: '/' :: '/' :: _ => "/"
    | '/' :: '/' :: _ => "//"
    | '/' :: _ => "/"
    | _ => ""
  let tidy := root ++ "/".intercalate (pathNames path)
  if tidy.isEmpty then "." else tidy

/-- Files and directories, each under the names that lead to it. -/
structure FileTree where
  entries : List (List String × Entry)
  deriving Repr

namespace FileTree

/-- What stands under certain names. Whatever has something below it is a directory. -/
def entry (t : FileTree) (names : List String) : Entry :=
  match t.entries.find? (·.1 == names) with
  | some (_, e) => e
  | none =>
    if names.isEmpty || t.entries.any fun e => names.isPrefixOf e.1 then .directory else .missing

/-- Follow names from a directory. The name `..` leads back. -/
def follow (t : FileTree) (current : List String) : List String → Entry
  | [] => t.entry current
  | name :: rest =>
    match t.entry current with
    | .directory =>
      if name == ".." then
        if current.isEmpty then .missing else t.follow current.dropLast rest
      else t.follow (current ++ [name]) rest
    | _ => .missing

/-- What stands at a path, seen from a directory of the tree. -/
def lookup (t : FileTree) (current : List String) : Files := fun path =>
  if path.startsWith "/" then .missing else t.follow current (pathNames path)

end FileTree

end HttpScript
