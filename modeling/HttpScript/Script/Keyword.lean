import HttpScript.Text.Case

/-!
# Keywords

The ten words that may start a line of a script. Their letter case is free.
-/
namespace HttpScript

inductive Method where
  | get
  | post
  | put
  | delete
  | patch
  deriving Repr, DecidableEq

namespace Method

def all : List Method := [.get, .post, .put, .delete, .patch]

def name : Method → String
  | .get => "GET"
  | .post => "POST"
  | .put => "PUT"
  | .delete => "DELETE"
  | .patch => "PATCH"

end Method

inductive Keyword where
  | method (m : Method)
  | http
  | header
  | wait
  | save
  | capture
  deriving Repr, DecidableEq

namespace Keyword

def all : List Keyword := Method.all.map .method ++ [.http, .header, .wait, .save, .capture]

/-- The upper-case spelling. -/
def spelling : Keyword → String
  | .method m => m.name
  | .http => "HTTP"
  | .header => "HEADER"
  | .wait => "WAIT"
  | .save => "SAVE"
  | .capture => "[CAPTURE]"

/-- The keyword whose spelling a word has when written in upper case. -/
def ofWord? (word : List Char) : Option Keyword :=
  let upper := Text.upper word
  all.find? fun k => k.spelling.toList == upper

def isMethod : Keyword → Bool
  | .method _ => true
  | _ => false

end Keyword

end HttpScript
