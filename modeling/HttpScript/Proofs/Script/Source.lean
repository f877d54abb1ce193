import HttpScript.Proofs.Json.LineStarts
import HttpScript.Proofs.Script.Arguments
import HttpScript.Script.Reader

/-!
# Scripts as they are written

The parts of a script, each with what makes it well-formed: blocks of a method line and items, with
blank lines between them. A block says in one place which request it stands for, whatever the order
of its items.
-/
namespace HttpScript.Source

/-- A keyword, in any case of its letters. -/
structure Spelling (k : Keyword) where
  chars : List Char
  spells : k.Spells chars

/-- A text without blanks around it that fits on a line. -/
structure Argument where
  chars : List Char
  ne_nil : chars ≠ []
  trimmed : Text.trim chars = chars
  oneLine : '\n' ∉ chars

/-- An argument that is one word. -/
structure Name extends Argument where
  noSpace : ' ' ∉ chars

structure Numeral where
  chars : List Char
  ne_nil : chars ≠ []
  digits : ∀ c ∈ chars, c.isDigit = true
  short : chars.length ≤ Json.integerDigitLimit

structure BlankLine where
  chars : List Char
  blank : Text.trim chars = []
  oneLine : '\n' ∉ chars

/-- The text of an array or an object, without blank lines and literals of non-finite numbers. -/
structure Body where
  chars : List Char
  value : Json
  reads : Json.read .accept chars = .ok value
  container : value.isContainer = true
  finite : ∀ which left, Json.read .refuse chars ≠ .error (.nonFinite which left)
  solid : ∀ l ∈ chars.splitOn '\n', Text.trim l ≠ []

inductive Item where
  | header (k : Spelling .header) (name : Name) (value : Argument)
  | save (k : Spelling .save) (name : Name) (value : Argument)
  | http (k : Spelling .http) (n : Numeral)
  | wait (k : Spelling .wait) (n : Numeral)
  | body (b : Body)

namespace Item

def lines : Item → List (List Char)
  | .header k name value | .save k name value =>
    [k.chars ++ ' ' :: (name.chars ++ ' ' :: value.chars)]
  | .http k n | .wait k n => [k.chars ++ ' ' :: n.chars]
  | .body b => b.chars.splitOn '\n'

def header? : Item → Option Field
  | .header _ name value => some ⟨.ofList name.chars, .ofList value.chars⟩
  | _ => none

def capture? : Item → Option Field
  | .save _ name value => some ⟨.ofList name.chars, .ofList value.chars⟩
  | _ => none

def status? : Item → Option Nat
  | .http _ n => some (Nat.ofDigitChars 10 n.chars 0)
  | _ => none

def wait? : Item → Option Nat
  | .wait _ n => some (Nat.ofDigitChars 10 n.chars 0)
  | _ => none

def body? : Item → Option Json
  | .body b => some b.value
  | _ => none

/-- One item may follow another: a body does not follow a body. -/
def MayFollow (i j : Item) : Prop := ¬ (i.body?.isSome ∧ j.body?.isSome)

end Item

structure Block where
  method : Method
  word : Spelling (.method method)
  url : Argument
  items : List Item
  ordered : items.IsChain Item.MayFollow

namespace Block

def lines (b : Block) : List (List Char) :=
  (b.word.chars ++ ' ' :: b.url.chars) :: b.items.flatMap Item.lines

/-- The request of a block whose method line has the number `n`. -/
def request (b : Block) (n : Nat) : Request where
  method := .ofList (b.word.chars.map Char.toUpper)
  url := .ofList b.url.chars
  headers := b.items.filterMap Item.header?
  body := (b.items.filterMap Item.body?).getLast?
  expectedStatus := ((b.items.filterMap Item.status?).getLastD 0 : Nat)
  captures := b.items.filterMap Item.capture?
  waitMs := ((b.items.filterMap Item.wait?).getLastD 0 : Nat)
  line := n

end Block

/-- Blank lines, then blocks, each with the blank lines after it. -/
structure Script where
  lead : List BlankLine
  blocks : List (Block × List BlankLine)

def blankLines (bs : List BlankLine) : List (List Char) := bs.map BlankLine.chars

def blockLines (blocks : List (Block × List BlankLine)) : List (List Char) :=
  blocks.flatMap fun (b, bs) => b.lines ++ blankLines bs

namespace Script

def lines (s : Script) : List (List Char) := blankLines s.lead ++ blockLines s.blocks

def text (s : Script) : List Char := ['\n'].intercalate s.lines

end Script

/-- The requests of blocks whose first line has the number `n`. -/
def requestsFrom (n : Nat) : List (Block × List BlankLine) → List Request
  | [] => []
  | (b, bs) :: rest => b.request n :: requestsFrom (n + b.lines.length + bs.length) rest

/-! ### Shapes of the lines -/

namespace Spelling

variable {k : Keyword} (w : Spelling k)

theorem head : ∃ c s, w.chars = c :: s ∧ Text.isBlank c = false ∧ c ≠ '#' := by
  obtain ⟨c, s, hc, hu⟩ := w.spells.head
  have hword := w.spells.isWordChar (hc ▸ List.mem_cons_self : c ∈ w.chars)
  exact ⟨c, s, hc, isBlank_of_isWordChar hword, by rintro rfl; exact absurd hu (by decide)⟩

theorem not_mem {c : Char} (h : isWordChar c = false) : c ∉ w.chars := by
  intro hc
  rw [w.spells.isWordChar hc] at h
  cases h

/-- The first word of a line that begins with a keyword is the keyword. -/
theorem shape_of_splitAtSpace {l : Line} {s : List Char} {tail : Option (List Char)}
    (htrim : Text.trim l.source = w.chars ++ s)
    (hsplit : Text.splitAtSpace (w.chars ++ s) = (w.chars, tail)) :
    l.shape = .words w.chars (Text.trim (tail.getD [])) := by
  obtain ⟨c, t, hc, -, hcomment⟩ := w.head
  rw [Line.shape, htrim, hc]
  split
  · rename_i h; cases h
  · rename_i h; exact absurd (List.cons.inj h).1 hcomment
  · rw [← hc, hsplit]

/-- A line is a keyword and its argument when these are left of it after trimming. -/
theorem shape_of_trim (arg : Argument) {l : Line} {rest : List Char}
    (htrim : Text.trim l.source = w.chars ++ ' ' :: rest) (hrest : Text.trim rest = arg.chars) :
    l.shape = .words w.chars arg.chars := by
  have hsplit := Text.splitAtSpace_append (w.not_mem (c := ' ') (by decide)) rest
  rw [w.shape_of_splitAtSpace htrim hsplit, Option.getD_some, hrest]

/-- A keyword, blanks and an argument are what is left of their line when it is trimmed. -/
theorem trim_line (arg : Argument) (gap : List Char) :
    Text.trim (w.chars ++ ' ' :: (gap ++ arg.chars)) = w.chars ++ ' ' :: (gap ++ arg.chars) := by
  obtain ⟨c, s, hc, hblank, -⟩ := w.head
  refine Text.trim_words (by simp [hc]) (by simpa [hc] using hblank) (by simp [arg.ne_nil]) ?_
  rw [List.getLast?_append_of_ne_nil _ arg.ne_nil]
  exact (Text.trim_eq_self_iff.1 arg.trimmed).2

/-- The shape of a line that holds a keyword and its argument. -/
theorem shape_eq (arg : Argument) {l : Line}
    (hl : l.source = Text.dropRightWhile (· == '\r') (w.chars ++ ' ' :: arg.chars)) :
    l.shape = .words w.chars arg.chars := by
  have htrim : Text.trim l.source = w.chars ++ ' ' :: arg.chars := by
    rw [hl, Text.trim_dropRightWhile (by simp; decide)]
    exact w.trim_line arg []
  exact w.shape_of_trim arg htrim arg.trimmed

theorem keywordOf?_eq : keywordOf? w.chars = some k := keywordOf?_eq_some_iff.2 w.spells

end Spelling

theorem BlankLine.shape_eq (b : BlankLine) {l : Line}
    (hl : l.source = Text.dropRightWhile (· == '\r') b.chars) : l.shape = .blank :=
  Line.shape_of_trim_eq_nil b.blank hl

namespace Name

/-- A name and a value, as the argument of a keyword. -/
def field (name : Name) (value : Argument) : Argument where
  chars := name.chars ++ ' ' :: value.chars
  ne_nil := by simp
  trimmed := Text.trim_words name.ne_nil (Text.trim_eq_self_iff.1 name.trimmed).1 value.ne_nil
    (Text.trim_eq_self_iff.1 value.trimmed).2
  oneLine := by simp [name.oneLine, value.oneLine]

/-- The name ends at the first space, and the value is trimmed. -/
theorem field?_of_trim (name : Name) (value : Argument) (l : Line) (first : List Char)
    {rest : List Char} (hrest : Text.trim rest = value.chars) :
    l.field? first (name.chars ++ ' ' :: rest) =
      .ok ⟨.ofList name.chars, .ofList value.chars⟩ := by
  have hvalue : value.chars.isEmpty = false := by simpa using value.ne_nil
  rw [Line.field?, if_neg (by simp)]
  simp only [Text.splitAtSpace_append name.noSpace, Option.getD_some, hrest, hvalue]
  rfl

theorem field?_eq (name : Name) (value : Argument) (l : Line) (first : List Char) :
    l.field? first (name.field value).chars =
      .ok ⟨.ofList name.chars, .ofList value.chars⟩ :=
  name.field?_of_trim value l first value.trimmed

end Name

namespace Numeral

variable (n : Numeral)

theorem isWordChar_of_mem {c : Char} (hc : c ∈ n.chars) : isWordChar c = true :=
  isWordChar_of_isDigit (n.digits c hc)

def argument : Argument where
  chars := n.chars
  ne_nil := n.ne_nil
  trimmed := trim_of_digits n.digits
  oneLine := fun hc => absurd (n.isWordChar_of_mem hc) (by decide)

theorem number?_eq (l : Line) (first : List Char) :
    l.number? first n.chars = .ok (Nat.ofDigitChars 10 n.chars 0) := by
  have hne : n.chars.isEmpty = false := by simpa using n.ne_nil
  rw [Line.number?, hne, if_neg (by simp), wholeNumber?_of_digits n.ne_nil n.digits]
  simp only
  rw [if_neg (Nat.not_lt.2 n.short), Json.digitsValue_eq]

end Numeral

end HttpScript.Source
