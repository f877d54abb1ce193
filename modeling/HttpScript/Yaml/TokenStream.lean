import HttpScript.Yaml.Token

/-!
# The tokens of a text

A colon shows only afterwards that a key stood before it. So every place where a key may begin is a
candidate until its line ends, and when a colon comes, the tokens of the key are put in there. In
blocks the columns of keys and entries tell where collections begin and end.
-/
namespace HttpScript.Yaml

/-- A place where a key may begin: the number of tokens before it, and where it stands in the text.
A key is required where an entry of the current mapping must stand. -/
structure Candidate where
  before : Nat
  required : Bool
  index : Nat
  line : Nat
  column : Nat
  deriving Repr

/-- A text that has been read in part. -/
structure TokenStream where
  cursor : Cursor
  tokens : Array Token := #[]
  /-- The column of the innermost block, and those of the blocks around it. -/
  indent : Int := -1
  outer : List Int := []
  /-- A key may begin here. -/
  keyAllowed : Bool := true
  /-- The candidate of the innermost collection, and those of the collections in brackets around it,
  the last one of which is for blocks. -/
  candidate : Option Candidate := none
  around : List (Option Candidate) := []
  deriving Repr

namespace TokenStream

/-- The text stands between brackets. -/
def inFlow (s : TokenStream) : Bool := !s.around.isEmpty

def emit (s : TokenStream) (t : Token) : TokenStream := { s with tokens := s.tokens.push t }

/-- Emit a token that takes up so many characters. -/
def emitOver (s : TokenStream) (t : Token) (length : Nat) : TokenStream :=
  { s.emit t with cursor := s.cursor.skip length }

def allowKey (s : TokenStream) (b : Bool) : TokenStream := { s with keyAllowed := b }

/-- Pass spaces, comments and line ends. In a block a key may begin on a new line. -/
def skipBetween : Nat → TokenStream → TokenStream
  | 0, s => s
  | fuel + 1, s =>
    let cur := s.cursor.spaces
    let cur := if cur.current == '#' then cur.dropWhile (!endsLine ·) else cur
    match cur.lineBreak with
    | (none, _) => { s with cursor := cur }
    | (some _, cur) =>
      skipBetween fuel { s with cursor := cur, keyAllowed := s.keyAllowed || !s.inFlow }

/-- A key has at most so many characters. -/
def keyLimit : Nat := 1024

/-- A key cannot reach over the end of its line. -/
def isStale (cur : Cursor) (c : Candidate) : Bool :=
  c.line != cur.line || cur.index > c.index + keyLimit

/-- Give up a candidate; a required key must not be given up. -/
def withdraw : Option Candidate → Option (Option Candidate)
  | some c => if c.required then none else some none
  | none => some none

def dropStale (s : TokenStream) : Option TokenStream := do
  let check (c : Option Candidate) : Option (Option Candidate) :=
    if c.any (isStale s.cursor) then withdraw c else some c
  let candidate ← check s.candidate
  let around ← s.around.mapM check
  return { s with candidate := candidate, around := around }

def withdrawCandidate (s : TokenStream) : Option TokenStream :=
  (withdraw s.candidate).map fun c => { s with candidate := c }

/-- Note that a key may begin here. -/
def saveCandidate (s : TokenStream) : Option TokenStream :=
  let required := !s.inFlow && s.indent == s.cursor.column
  if s.keyAllowed then do
    let s ← s.withdrawCandidate
    let here : Candidate :=
      ⟨s.tokens.size, required, s.cursor.index, s.cursor.line, s.cursor.column⟩
    return { s with candidate := some here }
  else some s

/-- End the blocks that are indented further than a column. -/
def unwind (column : Int) (s : TokenStream) : TokenStream :=
  if s.inFlow then s
  else
    let inner := (s.indent :: s.outer).takeWhile (column < ·)
    match (s.indent :: s.outer).drop inner.length with
    | indent :: outer =>
      { s with
        indent := indent, outer := outer
        tokens := s.tokens ++ List.replicate inner.length Token.blockEnd }
    | [] => s

/-- Begin a block at a column unless the current one is there already: `start` is put in at a place
among the tokens. -/
def openBlock (start : Token) (column place : Nat) (s : TokenStream) : TokenStream :=
  if s.indent < column then
    { s with
      indent := column, outer := s.indent :: s.outer
      tokens := s.tokens.insertIdxIfInBounds place start }
  else s

/-- Whatever begins here ends all blocks and begins no key. -/
def atMargin (s : TokenStream) : Option TokenStream :=
  (s.unwind (-1)).withdrawCandidate.map (·.allowKey false)

def flowStart (t : Token) (s : TokenStream) : Option TokenStream := do
  let s ← s.saveCandidate
  let s := { s with candidate := none, around := s.candidate :: s.around }
  return (s.allowKey true).emitOver t 1

def flowEnd (t : Token) (s : TokenStream) : Option TokenStream := do
  let s ← s.withdrawCandidate
  match s.around with
  | [] => none
  | candidate :: around =>
    let s := { s with candidate := candidate, around := around }
    return (s.allowKey false).emitOver t 1

def flowEntry (s : TokenStream) : Option TokenStream := do
  let s ← s.withdrawCandidate
  return (s.allowKey true).emitOver .flowEntry 1

/-- Begin a block for an entry or a key that has its own indicator. -/
def enterBlock (start : Token) (s : TokenStream) : Option TokenStream :=
  if s.inFlow then some s
  else if s.keyAllowed then some (s.openBlock start s.cursor.column s.tokens.size)
  else none

def blockEntry (s : TokenStream) : Option TokenStream := do
  let s ← s.enterBlock .blockSequenceStart
  let s ← s.withdrawCandidate
  return (s.allowKey true).emitOver .blockEntry 1

def key (s : TokenStream) : Option TokenStream := do
  let s ← s.enterBlock .blockMappingStart
  let s ← s.withdrawCandidate
  return (s.allowKey (!s.inFlow)).emitOver .key 1

def value (s : TokenStream) : Option TokenStream :=
  match s.candidate with
  | some c =>
    let s := { s with candidate := none, tokens := s.tokens.insertIdxIfInBounds c.before .key }
    let s := if s.inFlow then s else s.openBlock .blockMappingStart c.column c.before
    some ((s.allowKey false).emitOver .value 1)
  | none => do
    let s ← s.enterBlock .blockMappingStart
    let s ← s.withdrawCandidate
    return (s.allowKey (!s.inFlow)).emitOver .value 1

/-- A token that may begin a key. -/
def item (read : Cursor → Option (Token × Cursor)) (s : TokenStream) : Option TokenStream := do
  let s ← s.saveCandidate
  let (t, cur) ← read s.cursor
  return { (s.allowKey false).emit t with cursor := cur }

def quoted (double : Bool) : TokenStream → Option TokenStream :=
  item fun cur => (ScalarText.quoted double cur).map fun (text, cur) =>
    (.scalar (.ofList text) false, cur)

/-- A plain scalar. If a line ended after it, a key may follow. -/
def plain (s : TokenStream) : Option TokenStream := do
  let s ← s.saveCandidate
  let (text, ended, cur) := ScalarText.plain s.inFlow (s.indent + 1) s.cursor
  return { (s.allowKey ended).emit (.scalar (.ofList text) true) with cursor := cur }

def block (folded : Bool) (s : TokenStream) : Option TokenStream := do
  let s ← s.withdrawCandidate
  let (text, cur) ← ScalarText.block folded s.indent s.cursor
  return { (s.allowKey true).emit (.scalar (.ofList text) false) with cursor := cur }

/-- A plain scalar may begin here. -/
def beginsPlain (s : TokenStream) : Bool :=
  let c := s.cursor.current
  !(endsWord c || "-?:,[]\x7b\x7d#&*!|>'\"%@\x60".toList.contains c) ||
  (!endsWord (s.cursor.peek 1) && (c == '-' || (!s.inFlow && (c == '?' || c == ':'))))

/-- The token that begins here. -/
def token (s : TokenStream) : Option TokenStream :=
  let cur := s.cursor
  let wordEnds := endsWord (cur.peek 1)
  match cur.current with
  | '[' => s.flowStart .flowSequenceStart
  | '{' => s.flowStart .flowMappingStart
  | ']' => s.flowEnd .flowSequenceEnd
  | '}' => s.flowEnd .flowMappingEnd
  | ',' => s.flowEntry
  | '*' => s.item fun cur => cur.anchorName?.map fun (name, cur) => (.alias name, cur)
  | '&' => s.item fun cur => cur.anchorName?.map fun (name, cur) => (.anchor name, cur)
  | '!' => s.item Cursor.tag?
  | '\'' => s.quoted false
  | '"' => s.quoted true
  | c =>
    if c == '-' && wordEnds then s.blockEntry
    else if c == '?' && (s.inFlow || wordEnds) then s.key
    else if c == ':' && (s.inFlow || wordEnds) then s.value
    else if c == '|' && !s.inFlow then s.block false
    else if c == '>' && !s.inFlow then s.block true
    else if s.beginsPlain then s.plain
    else none

/-- Read one more token, or a mark of the edge of a document. -/
def next (s : TokenStream) : Option TokenStream :=
  let cur := s.cursor
  if cur.column == 0 && cur.current == '%' then do
    let s ← s.atMargin
    let (t, cur) ← s.cursor.directive?
    return { s.emit t with cursor := cur }
  else if cur.column == 0 && cur.atMark '-' then
    s.atMargin.map (·.emitOver .documentStart 3)
  else if cur.column == 0 && cur.atMark '.' then
    s.atMargin.map (·.emitOver .documentEnd 3)
  else s.token

/-- All tokens from here on. -/
def run : Nat → TokenStream → Option (List Token)
  | 0, _ => none
  | fuel + 1, s => do
    let s ← (skipBetween (s.cursor.rest.length + 1) s).dropStale
    let s := s.unwind s.cursor.column
    if s.cursor.atEnd then
      let s ← s.atMargin
      return s.tokens.toList
    else
      let s ← s.next
      run fuel s

end TokenStream

/-- The tokens of a text, unless it is malformed. A byte order mark at its beginning is passed. -/
def tokens? (text : List Char) : Option (List Token) :=
  if text.all isAllowed then
    let cur : Cursor := ⟨text, 0, 0, 0⟩
    let cur := if cur.current == '\uFEFF' then cur.step else cur
    TokenStream.run (text.length + 2) { cursor := cur }
  else none

end HttpScript.Yaml
