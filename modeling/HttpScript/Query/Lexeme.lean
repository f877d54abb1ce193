import HttpScript.Query.Document

/-!
# Lexemes of the query language

A string is split where a part of it is computed: its pieces and the lexemes of the computed parts
stand in one list, marked off by lexemes of their own.
-/
namespace HttpScript.Query

inductive Lexeme where
  /-- A name after a dot. -/
  | field (name : String)
  | word (name : String)
  /-- A name after a dollar sign. -/
  | variable (name : String)
  | number (n : Number)
  | openText
  | piece (s : String)
  | openCode
  | closeCode
  | closeText
  /-- An operator, a bracket or a separator. -/
  | mark (s : String)
  deriving Repr

namespace Lexeme

/-- What has to be closed, innermost first. -/
inductive Closer where
  | bracket (c : Char)
  /-- A computed part of a string. -/
  | code
  deriving DecidableEq

def isWordStart (c : Char) : Bool := c.isAlpha || c == '_'

def isWordChar (c : Char) : Bool := c.isAlphanum || c == '_'

/-- The longest name at the beginning. -/
def splitName (s : List Char) : List Char × List Char :=
  (s.takeWhile isWordChar, s.dropWhile isWordChar)

def isBlank (c : Char) : Bool := c == ' ' || c == '\n' || c == '\t' || c == '\r'

/-- Drop a comment: up to the end of the line, unless that is escaped by a backslash. -/
def dropComment : List Char → List Char
  | '\\' :: '\r' :: '\n' :: rest => dropComment rest
  | '\\' :: _ :: rest => dropComment rest
  | '\n' :: rest => '\n' :: rest
  | '\r' :: '\n' :: rest => '\r' :: '\n' :: rest
  | _ :: rest => dropComment rest
  | [] => []

/-- Marks, those of several characters before their beginnings. -/
def marks : List String :=
  ["?//=", "?//", "//=", "!=", "==", "//", "|=", "+=", "-=", "*=", "/=", "%=", "<=", ">=", "..",
    "?", "=", ";", ",", ":", "|", "+", "-", "*", "/", "%", "<", ">", "."]

/-- The mark at the beginning, and what follows it. -/
def mark? (s : List Char) : Option (String × List Char) :=
  (marks.find? fun m => m.toList.isPrefixOf s).map fun m => (m, s.drop m.length)

/-- The number at the beginning, and what follows it. -/
def number? (s : List Char) : Option (Number × List Char) :=
  let whole := s.takeWhile Char.isDigit
  let afterWhole := s.dropWhile Char.isDigit
  let (mantissa, afterMantissa) := match afterWhole with
    | '.' :: rest => (whole ++ '.' :: rest.takeWhile Char.isDigit, rest.dropWhile Char.isDigit)
    | _ => (whole, afterWhole)
  let (sign, afterSign) := match afterMantissa with
    | _ :: '-' :: rest => (['-'], rest)
    | _ :: '+' :: rest => ([], rest)
    | _ :: rest => ([], rest)
    | [] => ([], [])
  let exponent := afterSign.takeWhile Char.isDigit
  let marked := (afterMantissa.head?.map fun c => c == 'e' || c == 'E').getD false
  if mantissa == ['.'] then none
  else if marked && !exponent.isEmpty then
    (Number.ofText? (mantissa ++ 'e' :: sign ++ exponent)).map (·, afterSign.dropWhile Char.isDigit)
  else (Number.ofText? mantissa).map (·, afterMantissa)

/-- The closing bracket for an opening one. -/
def closing? : Char → Option Char
  | '(' => some ')'
  | '[' => some ']'
  | '\x7b' => some '\x7d'
  | _ => none

def isClosing (c : Char) : Bool := c == ')' || c == ']' || c == '\x7d'

/-- The characters of a string up to its next quote or computed part, and what follows. -/
def splitRaw : List Char → List Char × List Char
  | '\\' :: '(' :: rest => ([], '\\' :: '(' :: rest)
  | '\\' :: c :: rest => let (s, r) := splitRaw rest; ('\\' :: c :: s, r)
  | '"' :: rest => ([], '"' :: rest)
  | c :: rest => let (s, r) := splitRaw rest; (c :: s, r)
  | [] => ([], [])

mutual

/-- The lexemes of code. Every step takes at least one character, so the fuel suffices if it is the
number of characters. -/
def ofCode : Nat → List Closer → List Char → Option (List Lexeme)
  | 0, closers, s => if s.isEmpty && closers.isEmpty then some [] else none
  | _ + 1, closers, [] => if closers.isEmpty then some [] else none
  | fuel + 1, closers, c :: s =>
    if isBlank c then ofCode fuel closers s
    else if c == '#' then ofCode fuel closers (dropComment s)
    else if c == '"' then (ofText fuel closers s).map (.openText :: ·)
    else if isClosing c then
      match closers with
      | .bracket c' :: closers =>
        if c == c' then (ofCode fuel closers s).map (.mark (.singleton c) :: ·) else none
      | .code :: closers =>
        if c == ')' then (ofText fuel closers s).map (.closeCode :: ·) else none
      | [] => none
    else if isWordStart c then
      let (name, rest) := splitName (c :: s)
      (ofCode fuel closers rest).map (.word (.ofList name) :: ·)
    else
      match closing? c with
      | some c' => (ofCode fuel (.bracket c' :: closers) s).map (.mark (.singleton c) :: ·)
      | none =>
        let (name, rest) := splitName s
        let named := (name.head?.map isWordStart).getD false
        if c == '$' then
          if named then (ofCode fuel closers rest).map (.variable (.ofList name) :: ·) else none
        else if c == '.' && named then
          (ofCode fuel closers rest).map (.field (.ofList name) :: ·)
        else
          match (if c.isDigit || c == '.' then number? (c :: s) else none) with
          | some (n, rest) => (ofCode fuel closers rest).map (.number n :: ·)
          | none =>
            match mark? (c :: s) with
            | some (m, rest) => (ofCode fuel closers rest).map (.mark m :: ·)
            | none => none

/-- The lexemes of the rest of a string. -/
def ofText : Nat → List Closer → List Char → Option (List Lexeme)
  | 0, _, _ => none
  | fuel + 1, closers, s =>
    let (raw, rest) := splitRaw s
    let pieces : Option (List Lexeme) :=
      if raw.isEmpty then some []
      else match Document.unescape none raw with
        | .ok r => some [.piece (.ofList r)]
        | .error _ => none
    match pieces, rest with
    | some ps, '"' :: rest => (ofCode fuel closers rest).map fun ls => ps ++ .closeText :: ls
    | some ps, '\\' :: '(' :: rest =>
      (ofCode fuel (.code :: closers) rest).map fun ls => ps ++ .openCode :: ls
    | _, _ => none

end

/-- The lexemes of a query, if all its characters belong to one and all brackets are closed. -/
def ofQuery? (s : List Char) : Option (List Lexeme) := ofCode (s.length + 1) [] s

end Lexeme

end HttpScript.Query
