import HttpScript.Entries
import HttpScript.Yaml.Implicit
import HttpScript.Yaml.TokenStream

/-!
# Nodes of a document

The tree that tokens describe. An alias stands for the node that has its anchor.
-/
namespace HttpScript.Yaml

inductive Node where
  | scalar (tag : Tag) (text : List Char)
  | list (tag : Tag) (items : List Node)
  | map (tag : Tag) (entries : List (Node × Node))
  /-- A collection inside itself. -/
  | inside (isMap : Bool)
  deriving Repr

namespace Node

/-- The node of what is left out. -/
def empty : Node := .scalar .null []

/-- What is read of a document: the tokens that are left, the nodes with anchors, and the handles of
tags. -/
structure Reading where
  tokens : List Token
  anchors : List (String × Node) := []
  handles : List (String × String) := []

abbrev Read := StateT Reading Option

def malformed {α : Type} : Read α := fun _ => none

/-- The next token satisfies `p`; at the end there is none. -/
def sees (p : Token → Bool) : Read Bool := fun r => some (r.tokens.head?.any p, r)

def advance : Read Unit := fun r => some ((), { r with tokens := r.tokens.drop 1 })

/-- Pass the next token if it is `t`. -/
def passes (t : Token) : Read Bool := do
  if ← sees (· == t) then
    advance
    return true
  else return false

def expect (t : Token) : Read Unit := do
  if !(← passes t) then malformed

/-- Let an anchor stand for a node. -/
def setAnchor (anchor : Option String) (n : Node) : Read Unit := fun r =>
  some ((), match anchor with
    | some name => { r with anchors := Entries.put name n r.anchors }
    | none => r)

/-- The node with an anchor. -/
def anchored (name : String) : Read Node := fun r =>
  (Entries.get? name r.anchors).map fun n => (n, r)

/-- The name of a tag. -/
def tagName (handle : Option String) (suffix : String) : Read String := fun r =>
  match handle with
  | none => some (suffix, r)
  | some h => (Entries.get? h r.handles).map fun expansion => (expansion ++ suffix, r)

/-- Anchor and tag before a node, each at most once, in any order. -/
def properties : Nat → Option String → Option String → Read (Option String × Option String)
  | 0, anchor, tag => return (anchor, tag)
  | fuel + 1, anchor, tag => fun r =>
    match r.tokens, anchor, tag with
    | .anchor name :: rest, none, tag => properties fuel (some name) tag { r with tokens := rest }
    | .tag handle suffix :: rest, anchor, none =>
      (do
        let name ← tagName handle suffix
        properties fuel anchor (some name)) { r with tokens := rest }
    | _, anchor, tag => some ((anchor, tag), r)

/-- The tag `!` leaves the type to the form, as for a plain scalar. -/
def scalarTag (tag : Option String) (plain : Bool) (text : List Char) : Tag :=
  match tag with
  | some "!" => plainTag text
  | some name => .ofName name
  | none => if plain then plainTag text else .text

def collectionTag (tag : Option String) (default : Tag) : Tag :=
  match tag with
  | none => default
  | some "!" => default
  | some name => .ofName name

/-- Where a node stands: in brackets, in a block, or as the value of a key in a block, where the
entries of a list need no indentation. -/
inductive Place where
  | flow
  | block
  | entry
  deriving DecidableEq

mutual

def node : Nat → Place → Read Node
  | 0, _ => malformed
  | fuel + 1, place => fun r =>
    match r.tokens with
    | .alias name :: rest => anchored name { r with tokens := rest }
    | _ => (do
      let (anchor, tag) ← properties 2 none none
      if ← fun r => some (anchor.any fun a => Entries.contains a r.anchors, r) then malformed
      content fuel place anchor tag) r

/-- The node after its anchor and its tag. -/
def content : Nat → Place → Option String → Option String → Read Node
  | 0, _, _, _ => malformed
  | fuel + 1, place, anchor, tag => do
    let list (items : Read (List Node)) : Read Node := do
      setAnchor anchor (.inside false)
      let n := Node.list (collectionTag tag .list) (← items)
      setAnchor anchor n
      return n
    let map (entries : Read (List (Node × Node))) : Read Node := do
      setAnchor anchor (.inside true)
      let n := Node.map (collectionTag tag .map) (← entries)
      setAnchor anchor n
      return n
    let scalar (text : List Char) (plain : Bool) : Read Node := do
      let n := Node.scalar (scalarTag tag plain text) text
      setAnchor anchor n
      return n
    match (← get).tokens.head? with
    | some (.scalar text plain) =>
      advance
      scalar text.toList plain
    | some .flowSequenceStart =>
      advance
      list (flowItems fuel true)
    | some .flowMappingStart =>
      advance
      map (flowEntries fuel true)
    | some .blockSequenceStart =>
      if place == .flow then absent anchor tag
      else
        advance
        list (blockItems fuel)
    | some .blockMappingStart =>
      if place == .flow then absent anchor tag
      else
        advance
        map (blockEntries fuel)
    | some .blockEntry =>
      if place == .entry then list (entryItems fuel) else absent anchor tag
    | _ => absent anchor tag

/-- A node of which only the anchor or the tag is there. -/
def absent (anchor tag : Option String) : Read Node :=
  if anchor.isNone && tag.isNone then malformed
  else do
    let n := Node.scalar (scalarTag tag true []) []
    setAnchor anchor n
    return n

/-- A node that may be left out before certain tokens. -/
def nodeUnless : Nat → Place → List Token → Read Node
  | 0, _, _ => malformed
  | fuel + 1, place, ends => do
    if ← sees ends.contains then return .empty else node fuel place

/-- The entries of a list that is indented. -/
def blockItems : Nat → Read (List Node)
  | 0 => malformed
  | fuel + 1 => do
    if ← passes .blockEntry then
      let n ← nodeUnless fuel .block [.blockEntry, .blockEnd]
      return n :: (← blockItems fuel)
    else
      expect .blockEnd
      return []

/-- The entries of a list that is not indented. -/
def entryItems : Nat → Read (List Node)
  | 0 => malformed
  | fuel + 1 => do
    if ← passes .blockEntry then
      let n ← nodeUnless fuel .block [.blockEntry, .key, .value, .blockEnd]
      return n :: (← entryItems fuel)
    else return []

def blockEntries : Nat → Read (List (Node × Node))
  | 0 => malformed
  | fuel + 1 => do
    let ends := [Token.key, .value, .blockEnd]
    if ← passes .key then
      let k ← nodeUnless fuel .entry ends
      let v ← if ← passes .value then nodeUnless fuel .entry ends else pure .empty
      return (k, v) :: (← blockEntries fuel)
    else
      expect .blockEnd
      return []

/-- The items of a list in brackets. An item with a colon is a map of one entry. -/
def flowItems : Nat → Bool → Read (List Node)
  | 0, _ => malformed
  | fuel + 1, first => do
    if ← passes .flowSequenceEnd then return []
    if !first then expect .flowEntry
    if ← passes .flowSequenceEnd then return []
    if ← passes .key then
      let entry ← flowEntryAfterKey fuel .flowSequenceEnd
      return Node.map .map [entry] :: (← flowItems fuel false)
    else
      let n ← node fuel .flow
      return n :: (← flowItems fuel false)

/-- A key and its value, after the token that announces the key. -/
def flowEntryAfterKey : Nat → Token → Read (Node × Node)
  | 0, _ => malformed
  | fuel + 1, close => do
    let k ← nodeUnless fuel .flow [.value, .flowEntry, close]
    let v ←
      if ← passes .value then nodeUnless fuel .flow [.flowEntry, close] else pure .empty
    return (k, v)

def flowEntries : Nat → Bool → Read (List (Node × Node))
  | 0, _ => malformed
  | fuel + 1, first => do
    if ← passes .flowMappingEnd then return []
    if !first then expect .flowEntry
    if ← passes .flowMappingEnd then return []
    if ← passes .key then
      let entry ← flowEntryAfterKey fuel .flowMappingEnd
      return entry :: (← flowEntries fuel false)
    else
      let k ← node fuel .flow
      return (k, .empty) :: (← flowEntries fuel false)

end

/-! ## Documents -/

/-- The handles that need not be declared. -/
def commonHandles : List (String × String) := [("!", "!"), ("!!", commonTags)]

/-- Directives before a document, each at most once. -/
def directives : Nat → Bool → List (String × String) → Read (List (String × String))
  | 0, _, _ => malformed
  | fuel + 1, versioned, handles => fun r =>
    match r.tokens with
    | .directive d :: rest =>
      let r := { r with tokens := rest }
      match d with
      | .version major _ =>
        if versioned || major != 1 then none else directives fuel true handles r
      | .handle name expansion =>
        if Entries.contains name handles then none
        else directives fuel versioned (handles ++ [(name, expansion)]) r
      | .reserved => directives fuel versioned handles r
    | _ => some (handles, r)

/-- The end marks after a document. -/
def passEnds : Read Unit := fun r =>
  some ((), { r with tokens := r.tokens.dropWhile (· == .documentEnd) })

/-- The only document of a text. -/
def document (fuel : Nat) : Read (Option Node) := do
  if (← get).tokens.isEmpty then return none
  let isMark : Token → Bool
    | .directive _ => true
    | t => t == .documentStart
  let n ← if ← sees isMark then do
      let handles ← directives fuel false []
      modify fun r => { r with handles := handles ++ commonHandles }
      expect .documentStart
      let ends ← fun r => some (r.tokens.head?.all fun t => isMark t || t == .documentEnd, r)
      if ends then pure empty else node fuel .block
    else do
      modify fun r => { r with handles := commonHandles }
      node fuel .block
  passEnds
  if (← get).tokens.isEmpty then return some n else malformed

/-- The document of a text, if it has one; nothing if the text is malformed. -/
def ofText? (text : List Char) : Option (Option Node) := do
  let tokens ← tokens? text
  let (n, _) ← document (4 * tokens.length + 8) { tokens := tokens }
  return n

end Node

end HttpScript.Yaml
