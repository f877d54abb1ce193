import HttpScript.Proofs.Script.Completeness

/-!
# What may follow a body

A body ends at the end of the script, at a blank line or at a line with a keyword, with any blanks
around the words of this line. None of them changes what was read of the body, since no line of a
JSON text is blank, a comment or a keyword line itself.
-/
namespace HttpScript.Source

/-- A name and a value with further blanks between them. -/
def Name.spaced (name : Name) (gap : BlankLine) (value : Argument) : Argument where
  chars := name.chars ++ ' ' :: (gap.chars ++ value.chars)
  ne_nil := by simp
  trimmed := by
    refine Text.trim_words name.ne_nil (Text.trim_eq_self_iff.1 name.trimmed).1
      (by simp [value.ne_nil]) ?_
    rw [List.getLast?_append_of_ne_nil _ value.ne_nil]
    exact (Text.trim_eq_self_iff.1 value.trimmed).2
  oneLine := by simp [name.oneLine, gap.oneLine, value.oneLine]

/-- What stands after a keyword. -/
inductive Content : Keyword → Type
  | method (m : Method) (url : Argument) : Content (.method m)
  | header (name : Name) (gap : BlankLine) (value : Argument) : Content .header
  | save (name : Name) (gap : BlankLine) (value : Argument) : Content .save
  | http (n : Numeral) : Content .http
  | wait (n : Numeral) : Content .wait

namespace Content

variable {k : Keyword}

def argument : {k : Keyword} → Content k → Argument
  | _, .method _ url => url
  | _, .header name gap value | _, .save name gap value => name.spaced gap value
  | _, .http n | _, .wait n => n.argument

/-- What the line adds to the request it stands in. -/
def apply (r : Request) : {k : Keyword} → Content k → Request
  | _, .method _ _ => r
  | _, .header name _ value =>
    { r with headers := r.headers ++ [⟨.ofList name.chars, .ofList value.chars⟩] }
  | _, .save name _ value =>
    { r with captures := r.captures ++ [⟨.ofList name.chars, .ofList value.chars⟩] }
  | _, .http n => { r with expectedStatus := Nat.ofDigitChars 10 n.chars 0 }
  | _, .wait n => { r with waitMs := Nat.ofDigitChars 10 n.chars 0 }

/-- The requests that the line with the number `n` begins: one if it is a method line. -/
def begun (n : Nat) : {k : Keyword} → Content k → List Request
  | _, .method m url => [{ method := m.name, url := .ofList url.chars, line := n }]
  | _, _ => []

theorem begun_of_not_isMethod (c : Content k) (hk : k.isMethod = false) (n : Nat) :
    c.begun n = [] := by
  cases c with
  | method => cases hk
  | _ => rfl

theorem ne_capture (c : Content k) : k ≠ .capture := by
  rintro rfl
  cases c

end Content

/-- A keyword line with any blanks before, between and after its words. -/
structure KeywordLine (k : Keyword) where
  word : Spelling k
  content : Content k
  before : BlankLine
  gap : BlankLine
  after : BlankLine

namespace KeywordLine

variable {k : Keyword}

def chars (l : KeywordLine k) : List Char :=
  l.before.chars ++ (l.word.chars ++ ' ' :: (l.gap.chars ++ l.content.argument.chars) ++
    l.after.chars)

end KeywordLine

/-- What ends a body. -/
inductive Ending where
  | endOfInput
  | blank (b : BlankLine)
  | keyword {k : Keyword} (l : KeywordLine k)

namespace Ending

def lines : Ending → List (List Char)
  | .endOfInput => []
  | .blank b => [b.chars]
  | .keyword l => [l.chars]

/-- The lines that follow a body, each after a line break. -/
def text (e : Ending) : List Char := e.lines.flatMap ('\n' :: ·)

/-- What the line that ends a body adds to the request of the body. -/
def apply (r : Request) : Ending → Request
  | .keyword l => l.content.apply r
  | _ => r

/-- The requests that begin where the body ends, on the line with the number `n`. -/
def begun (n : Nat) : Ending → List Request
  | .keyword l => l.content.begun n
  | _ => []

end Ending

/-! ### Keyword lines -/

theorem BlankLine.isBlank (b : BlankLine) : ∀ c ∈ b.chars, Text.isBlank c = true :=
  Text.trim_eq_nil_iff.1 b.blank

theorem BlankLine.trim_append (b : BlankLine) (a : Argument) :
    Text.trim (b.chars ++ a.chars) = a.chars := by
  rw [Text.trim_append_of_blank b.isBlank, a.trimmed]

/-- A line within a request is read as what stands after its keyword. -/
theorem Content.continues {k : Keyword} (c : Content k) (hk : k.isMethod = false)
    (word : Spelling k) (r : Request) (line : Line) :
    continueRequest r line word.chars c.argument.chars = .ok (c.apply r) := by
  cases c with
  | method => cases hk
  | header name gap value =>
    have hfield := name.field?_of_trim value line word.chars (gap.trim_append value)
    simp only [continueRequest, word.keywordOf?_eq, argument, Name.spaced, hfield]
    rfl
  | save name gap value =>
    have hfield := name.field?_of_trim value line word.chars (gap.trim_append value)
    simp only [continueRequest, word.keywordOf?_eq, argument, Name.spaced, hfield]
    rfl
  | http n =>
    simp only [continueRequest, word.keywordOf?_eq, argument, Numeral.argument, n.number?_eq]
    rfl
  | wait n =>
    simp only [continueRequest, word.keywordOf?_eq, argument, Numeral.argument, n.number?_eq]
    rfl

namespace KeywordLine

variable {k : Keyword} (l : KeywordLine k)

theorem oneLine : '\n' ∉ l.chars := by
  simp [chars, l.before.oneLine, l.word.not_mem (c := '\n') (by decide), l.gap.oneLine,
    l.content.argument.oneLine, l.after.oneLine]

theorem shape_eq {line : Line} (h : line.source = Text.dropRightWhile (· == '\r') l.chars) :
    line.shape = .words l.word.chars l.content.argument.chars := by
  have htrim : Text.trim line.source =
      l.word.chars ++ ' ' :: (l.gap.chars ++ l.content.argument.chars) := by
    rw [h, Text.trim_dropRightWhile (by simp; decide), chars,
      Text.trim_append_of_blank l.before.isBlank, Text.trim_append_blanks l.after.isBlank,
      l.word.trim_line]
  exact l.word.shape_of_trim _ htrim (l.gap.trim_append _)

theorem opensBody_eq : opensBody l.word.chars = false := l.word.opensBody_eq l.content.ne_capture

/-- The line adds to an open request, or closes it and begins the next. -/
theorem step {p : Progress} {done : List Request} {r : Request} {line : Line}
    (hp : p.closeBody = .ok ⟨done, .inRequest r⟩)
    (h : line.source = Text.dropRightWhile (· == '\r') l.chars) :
    ∃ p', p.step line = .ok p' ∧
      p'.finish = .ok (done ++ l.content.apply r :: l.content.begun line.number) := by
  have hshape := l.shape_eq h
  have hword := l.word.keywordOf?_eq
  have hopens := l.opensBody_eq
  cases hk : k.isMethod with
  | false =>
    refine ⟨⟨done, .inRequest (l.content.apply r)⟩, ?_, ?_⟩
    · rw [Progress.step_keyword hp hshape hword]
      exact Progress.words_continue hopens hword hk (l.content.continues hk l.word r line)
    · rw [Progress.finish_of_closeBody rfl, l.content.begun_of_not_isMethod hk]
  | true =>
    obtain ⟨word, content, before, gap, after⟩ := l
    cases content with
    | method m url =>
      refine ⟨_, Progress.step_method (Progress.finish_of_closeBody hp) hshape hopens hword
        url.ne_nil, ?_⟩
      rw [Progress.finish_of_closeBody rfl, List.append_assoc]
      rfl
    | _ => cases hk

end KeywordLine

namespace Ending

/-- After a body the request is complete, but for what the line adds that ends the body. -/
theorem foldlM_lines (e : Ending) (n : Nat) {p : Progress} {done : List Request} {r : Request}
    (hp : p.closeBody = .ok ⟨done, .inRequest r⟩) :
    ∃ p', (numberLines n e.lines).foldlM Progress.step p = .ok p' ∧
      p'.finish = .ok (done ++ e.apply r :: e.begun n) := by
  have hfinish := Progress.finish_of_closeBody hp
  cases e with
  | endOfInput => exact ⟨p, rfl, hfinish⟩
  | blank b => exact ⟨_, foldlM_line (Progress.step_blank hfinish (b.shape_eq rfl)), rfl⟩
  | keyword l =>
    have hsource : (Line.mk n (Text.dropRightWhile (· == '\r') l.chars)).source =
        Text.dropRightWhile (· == '\r') l.chars := rfl
    obtain ⟨p', hstep, hp'⟩ := l.step hp hsource
    exact ⟨p', foldlM_line hstep, hp'⟩

/-- Nothing that ends a body changes the line of its method or the body. -/
theorem apply_eq (e : Ending) (r : Request) :
    (e.apply r).method = r.method ∧ (e.apply r).url = r.url ∧ (e.apply r).line = r.line ∧
      (e.apply r).body = r.body := by
  cases e with
  | endOfInput | blank b => exact ⟨rfl, rfl, rfl, rfl⟩
  | keyword l => cases hc : l.content <;> simp [apply, hc, Content.apply]

end Ending

/-- The lines of a document stand between its method line and what ends it. -/
theorem splitOn_text {m : Method} (head : KeywordLine (.method m)) (b : Body) (e : Ending) :
    (head.chars ++ '\n' :: (b.chars ++ e.text)).splitOn '\n' =
      [head.chars] ++ (b.chars.splitOn '\n' ++ e.lines) := by
  have hline : ∀ l : List Char, '\n' ∉ l → l.splitOn '\n' = [l] := fun l hl =>
    List.splitOn_eq_singleton hl
  have hafter : ∀ l : List Char, '\n' ∉ l →
      (b.chars ++ '\n' :: l).splitOn '\n' = b.chars.splitOn '\n' ++ [l] := by
    intro l hl
    rw [List.splitOn_append_cons_self, hline l hl]
  have hending : (b.chars ++ e.text).splitOn '\n' = b.chars.splitOn '\n' ++ e.lines := by
    cases e with
    | endOfInput => simp [Ending.text, Ending.lines]
    | blank l => simpa [Ending.text, Ending.lines] using hafter l.chars l.oneLine
    | keyword l => simpa [Ending.text, Ending.lines] using hafter l.chars l.oneLine
  rw [List.splitOn_append_cons_self, hline _ head.oneLine, hending]

/-- A document is read as its value, on whatever lines its tokens stand and whatever ends it. -/
theorem readScript_body {m : Method} (head : KeywordLine (.method m)) (b : Body) (e : Ending) :
    ∃ r, readScript (head.chars ++ '\n' :: (b.chars ++ e.text)) =
        .ok (r :: e.begun ((b.chars.splitOn '\n').length + 2)) ∧
      r.method = m.name ∧ r.url = .ofList head.content.argument.chars ∧ r.line = 1 ∧
      r.body = some b.value := by
  set r : Request := { method := m.name, url := .ofList head.content.argument.chars, line := 1 }
  have hhead : (numberLines 1 [head.chars]).foldlM Progress.step Progress.start =
      .ok ⟨[], .inRequest r⟩ :=
    foldlM_line (Progress.step_method rfl (head.shape_eq rfl) head.opensBody_eq
      head.word.keywordOf?_eq head.content.argument.ne_nil)
  obtain ⟨p, hbody, hp⟩ := b.foldlM_lines 2 [] r
  obtain ⟨p', hending, hp'⟩ := e.foldlM_lines (2 + (b.chars.splitOn '\n').length) hp
  obtain ⟨hmethod, hurl, hline, hvalue⟩ := e.apply_eq { r with body := some b.value }
  refine ⟨_, ?_, hmethod, hurl, hline, hvalue⟩
  have hfold := foldlM_numberLines hhead (foldlM_numberLines hbody hending)
  rw [readScript, Text.splitOn_eq, splitOn_text, readLines, hfold]
  rw [Nat.add_comm] at hp'
  exact hp'

/-- A line that ends a body, with blanks around its words. -/
def sampleWait : KeywordLine .wait where
  word := ⟨"Wait".toList, rfl⟩
  content := .wait ⟨"8".toList, by decide, by simp, by simp [Json.integerDigitLimit]⟩
  before := ⟨"\t".toList, by decide, by decide⟩
  gap := ⟨" ".toList, by decide, by decide⟩
  after := ⟨"\r".toList, by decide, by decide⟩

example : (Ending.keyword sampleWait).text = "\n\tWait  8\r".toList := by decide

end HttpScript.Source
