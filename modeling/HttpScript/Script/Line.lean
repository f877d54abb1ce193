import HttpScript.Script.SyntaxError
import HttpScript.Script.Token
import HttpScript.Text.Blank

/-!
# Lines of a script

A line is blank, a comment, or a first word with an argument. The arguments of the keywords are
read here: numbers, and pairs of a name and a value.
-/
namespace HttpScript

/-- A line, its number counted from one, and its text without carriage returns at the end. -/
structure Line where
  number : Nat
  source : List Char
  deriving Repr, DecidableEq

/-- The lines of a text, counted from `start`. -/
def numberLines (start : Nat) : List (List Char) → List Line
  | [] => []
  | s :: rest => ⟨start, Text.dropRightWhile (· == '\r') s⟩ :: numberLines (start + 1) rest

inductive Shape where
  | blank
  | comment
  | words (first argument : List Char)
  deriving Repr, DecidableEq

namespace Line

/-- The first word ends at the first space; the argument is what follows, without blanks around. -/
def shape (l : Line) : Shape :=
  match Text.trim l.source with
  | [] => .blank
  | '#' :: _ => .comment
  | s =>
    let (first, rest) := Text.splitAtSpace s
    .words first (Text.trim (rest.getD []))

/-- The offset of `part` in the line, in lower case on both sides; 0 when it is not there. -/
def offsetOf (l : Line) (part : List Char) : Nat :=
  (Text.find? (Text.lower part) (Text.lower l.source)).getD 0

/-- An error at the first character of `part`. -/
def errorAt (l : Line) (part : List Char) (fault : SyntaxFault) : SyntaxError :=
  ⟨fault, l.number, l.offsetOf part + 1, l.source⟩

/-- An error at the last character of `part`. -/
def errorAtEnd (l : Line) (part : List Char) (fault : SyntaxFault) : SyntaxError :=
  ⟨fault, l.number, max (l.offsetOf part + part.length) 1, l.source⟩

end Line

/-- Why a script is refused. -/
inductive ScriptFault where
  | syntaxError (e : SyntaxError)
  | longInteger (digits : Nat)
  deriving Repr, DecidableEq

/-- The keyword that a word is. A word is one only as a whole: its first token covers it. -/
def keywordOf? (word : List Char) : Option Keyword :=
  match word with
  | [] => none
  | '\x7b' :: _ => none
  | _ =>
    match (Cursor.ofText word).next.1 with
    | .ok ⟨.keyword k, literal, _, _, _⟩ => if literal == word then some k else none
    | _ => none

/-- The digits of an argument that is one number without sign and fraction. -/
def wholeNumber? (argument : List Char) : Option (List Char) :=
  let c := Cursor.ofText argument
  match c.next.1, c.next.2.next.1 with
  | .ok ⟨.number, literal, _, _, _⟩, .ok ⟨.endOfInput, _, _, _, _⟩ =>
    if literal.all Char.isDigit then some literal else none
  | _, _ => none

namespace Line

/-- The number after a keyword. -/
def number? (l : Line) (first argument : List Char) : Except ScriptFault Nat :=
  if argument.isEmpty then .error (.syntaxError (l.errorAtEnd first .expectedNumber))
  else match wholeNumber? argument with
    | none => .error (.syntaxError (l.errorAt argument .expectedNumber))
    | some digits =>
      if Json.integerDigitLimit < digits.length then .error (.longInteger digits.length)
      else .ok (Json.digitsValue digits)

/-- The name and value after a keyword. -/
def field? (l : Line) (first argument : List Char) : Except ScriptFault Field :=
  if argument.isEmpty then .error (.syntaxError (l.errorAtEnd first .expectedIdentifier))
  else
    let (name, rest) := Text.splitAtSpace argument
    let value := Text.trim (rest.getD [])
    if value.isEmpty then .error (.syntaxError (l.errorAtEnd name .expectedValue))
    else .ok ⟨.ofList name, .ofList value⟩

end Line

end HttpScript
