import HttpScript.Surroundings
import HttpScript.Text.Utf8

/-!
# Environment files

Files that define variables: a line holds a name, an equals sign and a value, which may be quoted and
may refer to other variables.
-/
namespace HttpScript

/-- What a line of an environment file says; `line` is where a statement begins that says nothing. -/
inductive Binding where
  | none
  | set (name : String) (value : Option String)
  | broken (line : Nat)
  deriving Repr, DecidableEq

namespace Environment

/-! ## Statements -/

def isLineEnd (c : Char) : Bool := c == '\n' || c == '\r'

/-- A blank inside a line. -/
def isInnerBlank (c : Char) : Bool := Text.isBlank c && !isLineEnd c

def skipBlanks (s : List Char) : List Char := s.dropWhile isInnerBlank

/-- The word `export` before a name means nothing. -/
def skipExport (s : List Char) : List Char :=
  let rest := s.drop 6
  if "export".toList.isPrefixOf s && rest.head?.any isInnerBlank then skipBlanks rest else s

/-- What a backslash with a character stands for inside quotes. -/
def escaped? (mark c : Char) : Option Char :=
  if c == '\\' || c == '\'' then some c
  else if mark == '\'' then none
  else match c with
    | '"' => some '"'
    | 'a' => some '\x07'
    | 'b' => some '\x08'
    | 'f' => some '\x0c'
    | 'n' => some '\n'
    | 'r' => some '\r'
    | 't' => some '\t'
    | 'v' => some '\x0b'
    | _ => none

/-- Resolve the escapes of a quoted value. -/
def unescape (mark : Char) : List Char → List Char
  | '\\' :: c :: s =>
    match escaped? mark c with
    | some r => r :: unescape mark s
    | none => '\\' :: unescape mark (c :: s)
  | c :: s => c :: unescape mark s
  | [] => []

/-- The text up to the first quote that has no backslash before it, and what follows that quote. -/
def closeQuote? (mark : Char) (before : Char) : List Char → Option (List Char × List Char)
  | [] => none
  | c :: s =>
    if c == mark && before != '\\' then some ([], s)
    else (closeQuote? mark c s).map fun (text, rest) => (c :: text, rest)

/-- The text up to the last quote, and what follows it. -/
def lastQuote? (mark : Char) (s : List Char) : Option (List Char × List Char) :=
  let after := (s.reverse.takeWhile (· != mark)).reverse
  if after.length == s.length then none
  else some (s.take (s.length - after.length - 1), after)

/-- A quoted value after its first quote. If every further quote has a backslash before it, the last
one ends the value. -/
def quotedValue? (mark : Char) (s : List Char) : Option (List Char × List Char) := do
  let (text, rest) ← match closeQuote? mark mark s with
    | some found => some found
    | none => lastQuote? mark s
  return (unescape mark text, rest)

/-- Cut off a comment with the blanks before it. -/
def dropComment : List Char → List Char
  | [] => []
  | c :: s =>
    if Text.isBlank c && (s.dropWhile Text.isBlank).head? == some '#' then []
    else c :: dropComment s

/-- The value after an equals sign. -/
def value? (s : List Char) : Option (List Char × List Char) :=
  match s with
  | '\'' :: s => quotedValue? '\'' s
  | '"' :: s => quotedValue? '"' s
  | s =>
    some (Text.dropRightWhile Text.isBlank (dropComment (s.takeWhile (!isLineEnd ·))),
      s.dropWhile (!isLineEnd ·))

/-- The name at the beginning of a statement; a comment has none. -/
def name? : List Char → Option (Option String × List Char)
  | '\'' :: s =>
    let name := s.takeWhile (· != '\'')
    match s.drop name.length with
    | _ :: rest => if name.isEmpty then none else some (some (.ofList name), rest)
    | [] => none
  | s =>
    if s.head? == some '#' then some (none, s)
    else
      let name := s.takeWhile fun c => c != '=' && c != '#' && !Text.isBlank c
      if name.isEmpty then none else some (some (.ofList name), s.drop name.length)

/-- Pass what may follow a statement on its line. Otherwise, where the statement stops. -/
def endStatement (s : List Char) : Except (List Char) (List Char) :=
  let afterBlanks := skipBlanks s
  let s := if afterBlanks.head? == some '#' then afterBlanks.dropWhile (!isLineEnd ·) else s
  match skipBlanks s with
  | [] => .ok []
  | c :: rest => if isLineEnd c then .ok rest else .error s

/-- Read a statement that is not empty; if it is broken, give the place where it stops. -/
def statement (s : List Char) : Except (List Char) (Binding × List Char) := do
  let s := skipExport s
  let (name, s) ← match name? s with
    | some found => pure found
    | none => .error s
  let s := skipBlanks s
  let (value, s) ← match s with
    | '=' :: rest =>
      let rest := skipBlanks rest
      match value? rest with
      | some (value, rest) => pure (some (String.ofList value), rest)
      | none => .error rest
    | s => pure (none, s)
  let s ← endStatement s
  return ((name.map fun n => Binding.set n value).getD .none, s)

/-- The statements from a line on. -/
def bindingsFrom : Nat → Nat → List Char → List Binding
  | 0, _, _ => []
  | fuel + 1, line, s =>
    let start := s.dropWhile Text.isBlank
    if start.isEmpty then []
    else
      let lines (rest : List Char) : Nat := ((s.take (s.length - rest.length)).filter (· == '\n')).length
      match statement start with
      | .ok (b, rest) => b :: bindingsFrom fuel (line + lines rest) rest
      | .error stopped =>
        let rest := (stopped.dropWhile (!isLineEnd ·)).drop 1
        .broken line :: bindingsFrom fuel (line + lines rest) rest

/-- The statements of an environment file whose lines end in line feeds. -/
def bindings (text : List Char) : List Binding := bindingsFrom (text.length + 1) 1 text

/-! ## References -/

/-- A reference after its dollar sign and brace: a name, a default, and what follows. -/
def reference? (s : List Char) : Option (String × String × List Char) :=
  let name := s.takeWhile fun c => c != '\x7d' && c != ':'
  match s.drop name.length with
  | '\x7d' :: rest => some (.ofList name, "", rest)
  | ':' :: '-' :: s =>
    let default := s.takeWhile (· != '\x7d')
    match s.drop default.length with
    | _ :: rest => some (.ofList name, .ofList default, rest)
    | [] => none
  | _ => none

/-- Put values in the place of references. -/
def resolve (look : String → Option String) : Nat → List Char → List Char
  | 0, s => s
  | _, [] => []
  | fuel + 1, c :: s =>
    match c, s with
    | '$', '\x7b' :: rest =>
      match reference? rest with
      | some (name, default, rest) =>
        ((look name).getD default).toList ++ resolve look fuel rest
      | none => c :: resolve look fuel s
    | c, s => c :: resolve look fuel s

/-- The value that a reference sees: a variable of the process comes before one of the file. A name
of the file without a value is empty. -/
def visible (env : Environment) (defined : List (String × Option String)) (name : String) :
    Option String :=
  match Entries.get? name env with
  | some value => some value
  | none => (Entries.get? name defined).map (·.getD "")

/-- The names that a file defines, with their values. -/
def define (env : Environment) : List Binding → List (String × Option String) →
    List (String × Option String)
  | [], defined => defined
  | .set name value :: rest, defined =>
    let value := value.map fun v =>
      String.ofList (resolve (visible env defined) (v.length + 1) v.toList)
    define env rest (Entries.put name value defined)
  | _ :: rest, defined => define env rest defined

/-- The variables together with those of a file that are not set yet. -/
def extend (env : Environment) (bindings : List Binding) : Environment :=
  (define env bindings []).foldl (fun env (name, value) =>
    match value with
    | some v => Entries.putNew name v env
    | none => env) env

/-- The names that a value refers to. -/
def references : Nat → List Char → List String
  | 0, _ => []
  | _, [] => []
  | fuel + 1, c :: s =>
    match c, s with
    | '$', '\x7b' :: rest =>
      match reference? rest with
      | some (name, _, rest) => name :: references fuel rest
      | none => references fuel s
    | _, s => references fuel s

/-- The names that statements define or refer to. -/
def mentioned (bindings : List Binding) : List String :=
  bindings.flatMap fun
    | .set name (some value) => name :: references (value.length + 1) value.toList
    | .set name none => [name]
    | _ => []

/-- What is said of the statements that are broken. -/
def warnings (bindings : List Binding) : List String :=
  bindings.filterMap fun
    | .broken line => some s!"python-dotenv could not parse statement starting at line {line}"
    | _ => none

/-! ## The file -/

/-- The first file with a name in the working directory or one above it. -/
def nearestFile (files : Files) : Nat → String → Option (List UInt8)
  | 0, path =>
    match files path with
    | .file content => some content
    | _ => none
  | above + 1, path =>
    match files path with
    | .file content => some content
    | _ => nearestFile files above ("../" ++ path)

/-- What the environment file says, if there is one. -/
def bindingsAround (s : Surroundings) : Except Text.Utf8.Fault (List Binding) :=
  match nearestFile s.files s.above ".env" with
  | none => .ok []
  | some content => (Text.Utf8.decode content).map fun text => bindings (Text.unifyLineEnds text)

/-- The nearest environment file is read. -/
def file : EnvironmentFile := fun s =>
  match bindingsAround s with
  | .error fault => .error fault.message
  | .ok bindings => .ok (extend s.environment bindings, warnings bindings)

end Environment

end HttpScript
