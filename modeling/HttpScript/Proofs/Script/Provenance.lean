import HttpScript.Proofs.Script.Completeness

/-!
# Where the parts of a request come from

Every request that is read has an origin: its method line and, below it, the clauses that were read
from the lines up to the next method line. The lines of all origins, one after another, are the
lines of the script without the blank ones and the comments. So no line is skipped, read twice or
given to another request.
-/
namespace HttpScript

/-- The lines of a script. -/
def scriptLines (text : List Char) : List Line := numberLines 1 (Text.splitOn '\n' text)

namespace Line

/-- The line is neither blank nor a comment. -/
def hasWords (l : Line) : Bool :=
  match l.shape with
  | .words _ _ => true
  | _ => false

/-- The first word of the line is the name of a method. -/
def IsMethodLine (l : Line) : Prop :=
  ∃ first argument m, l.shape = .words first argument ∧ keywordOf? first = some (.method m)

end Line

/-- What a keyword line within a request says, or what the lines of a body read as. -/
inductive Clause where
  | header (l : Line) (f : Field)
  | save (l : Line) (f : Field)
  | http (l : Line) (n : Nat)
  | wait (l : Line) (n : Nat)
  | body (first : Line) (more : List Line) (value : Json)

namespace Clause

def lines : Clause → List Line
  | .header l _ | .save l _ | .http l _ | .wait l _ => [l]
  | .body first more _ => first :: more

def header? : Clause → Option Field
  | .header _ f => some f
  | _ => none

def capture? : Clause → Option Field
  | .save _ f => some f
  | _ => none

def status? : Clause → Option Nat
  | .http _ n => some n
  | _ => none

def wait? : Clause → Option Nat
  | .wait _ n => some n
  | _ => none

def body? : Clause → Option Json
  | .body _ _ value => some value
  | _ => none

/-- The lines of a clause say what the clause holds. The lines of a body after the first begin with
no keyword. -/
inductive IsRead : Clause → Prop
  | header {l : Line} {f : Field} {w argument : List Char} (shape : l.shape = .words w argument)
      (word : keywordOf? w = some .header) (value : l.field? w argument = .ok f) :
      IsRead (.header l f)
  | save {l : Line} {f : Field} {w argument : List Char} (shape : l.shape = .words w argument)
      (word : keywordOf? w = some .save) (value : l.field? w argument = .ok f) :
      IsRead (.save l f)
  | http {l : Line} {n : Nat} {w argument : List Char} (shape : l.shape = .words w argument)
      (word : keywordOf? w = some .http) (value : l.number? w argument = .ok n) :
      IsRead (.http l n)
  | wait {l : Line} {n : Nat} {w argument : List Char} (shape : l.shape = .words w argument)
      (word : keywordOf? w = some .wait) (value : l.number? w argument = .ok n) :
      IsRead (.wait l n)
  | body {first : Line} {more : List Line} {value : Json} {w argument : List Char}
      (shape : first.shape = .words w argument) (opens : opensBody w = true)
      (continues : ∀ l ∈ more, ∃ w argument, l.shape = .words w argument ∧ keywordOf? w = none)
      (reads : readBody first more = .ok value) : IsRead (.body first more value)

/-- What a clause adds to a request. -/
def apply (r : Request) : Clause → Request
  | .header _ f => { r with headers := r.headers ++ [f] }
  | .save _ f => { r with captures := r.captures ++ [f] }
  | .http _ n => { r with expectedStatus := n }
  | .wait _ n => { r with waitMs := n }
  | .body _ _ value => { r with body := some value }

end Clause

/-- A method line and the clauses below it. -/
structure Origin where
  head : Line
  clauses : List Clause

namespace Origin

def lines (o : Origin) : List Line := o.head :: o.clauses.flatMap Clause.lines

/-- A further clause below those that are there. -/
def add (o : Origin) (c : Clause) : Origin := { o with clauses := o.clauses ++ [c] }

/-- The request is what the method line and the clauses say. -/
structure Yields (o : Origin) (r : Request) : Prop where
  head : ∃ w argument m, o.head.shape = .words w argument ∧ keywordOf? w = some (.method m) ∧
    argument ≠ [] ∧ r.method = m.name ∧ r.url = .ofList argument
  read : ∀ c ∈ o.clauses, c.IsRead
  line : r.line = o.head.number
  headers : r.headers = o.clauses.filterMap Clause.header?
  body : r.body = (o.clauses.filterMap Clause.body?).getLast?
  expectedStatus : r.expectedStatus = ((o.clauses.filterMap Clause.status?).getLastD 0 : Nat)
  captures : r.captures = o.clauses.filterMap Clause.capture?
  waitMs : r.waitMs = ((o.clauses.filterMap Clause.wait?).getLastD 0 : Nat)

variable {o : Origin} {r : Request}

theorem lines_add (o : Origin) (c : Clause) : (o.add c).lines = o.lines ++ c.lines := by
  simp [lines, add]

/-- A clause that is read extends the request and its origin together. -/
theorem Yields.add (h : o.Yields r) {c : Clause} (hc : c.IsRead) :
    (o.add c).Yields (c.apply r) := by
  have hread : ∀ c' ∈ o.clauses ++ [c], c'.IsRead := by
    intro c' hc'
    rcases List.mem_append.1 hc' with hc' | hc'
    · exact h.read c' hc'
    · rw [List.mem_singleton.1 hc']
      exact hc
  obtain ⟨hhead, -, hline, hheaders, hbody, hstatus, hcaptures, hwait⟩ := h
  cases c <;>
    exact ⟨hhead, hread, hline,
      by simp [Origin.add, Clause.apply, Clause.header?, hheaders],
      by simp [Origin.add, Clause.apply, Clause.body?, hbody],
      by simp [Origin.add, Clause.apply, Clause.status?, hstatus],
      by simp [Origin.add, Clause.apply, Clause.capture?, hcaptures],
      by simp [Origin.add, Clause.apply, Clause.wait?, hwait]⟩

/-- A method line alone is the origin of the request it begins. -/
theorem yields_of_beginRequest {l : Line} {w argument : List Char}
    (hl : l.shape = .words w argument) (h : beginRequest l w argument = .ok r) :
    (Origin.mk l []).Yields r := by
  unfold beginRequest at h
  split at h
  · cases h
  · rename_i m hw
    split at h
    · cases h
    · rename_i ha
      obtain rfl := Except.ok.inj h
      exact ⟨⟨w, argument, m, hl, hw, by simpa using ha, rfl, rfl⟩, by simp, rfl, rfl, rfl, rfl,
        rfl, rfl⟩
  · cases h

end Origin

/-- A line within a request that is no method line and opens no body is a clause. -/
theorem exists_clause_of_continueRequest {r r' : Request} {l : Line} {w argument : List Char}
    (hl : l.shape = .words w argument) (h : continueRequest r l w argument = .ok r') :
    ∃ c : Clause, c.IsRead ∧ c.lines = [l] ∧ c.apply r = r' := by
  unfold continueRequest at h
  split at h
  · rename_i hw
    cases hn : l.number? w argument with
    | error fault => rw [hn] at h; cases h
    | ok n => rw [hn] at h; exact ⟨.http l n, .http hl hw hn, rfl, Except.ok.inj h⟩
  · rename_i hw
    cases hf : l.field? w argument with
    | error fault => rw [hf] at h; cases h
    | ok f => rw [hf] at h; exact ⟨.header l f, .header hl hw hf, rfl, Except.ok.inj h⟩
  · rename_i hw
    cases hn : l.number? w argument with
    | error fault => rw [hn] at h; cases h
    | ok n => rw [hn] at h; exact ⟨.wait l n, .wait hl hw hn, rfl, Except.ok.inj h⟩
  · rename_i hw
    cases hf : l.field? w argument with
    | error fault => rw [hf] at h; cases h
    | ok f => rw [hf] at h; exact ⟨.save l f, .save hl hw hf, rfl, Except.ok.inj h⟩
  · cases h

/-! ### The reader, line by line -/

namespace Progress

/-- The lines that were read, the last of them those of the open request and of its open body. -/
inductive Explained : Progress → List Line → Prop
  | between {origins : List Origin} {done : List Request}
      (complete : List.Forall₂ Origin.Yields origins done) :
      Explained ⟨done, .between⟩ (origins.flatMap Origin.lines)
  | inRequest {origins : List Origin} {done : List Request} {o : Origin} {r : Request}
      (complete : List.Forall₂ Origin.Yields origins done) (current : o.Yields r) :
      Explained ⟨done, .inRequest r⟩ (origins.flatMap Origin.lines ++ o.lines)
  | inBody {origins : List Origin} {done : List Request} {o : Origin} {r : Request}
      {first : Line} {more : List Line} {w argument : List Char}
      (complete : List.Forall₂ Origin.Yields origins done) (current : o.Yields r)
      (shape : first.shape = .words w argument) (opens : opensBody w = true)
      (continues : ∀ l ∈ more, ∃ w argument, l.shape = .words w argument ∧ keywordOf? w = none) :
      Explained ⟨done, .inBody r first more⟩
        (origins.flatMap Origin.lines ++ o.lines ++ first :: more)

theorem explained_start : Explained start [] := @Explained.between [] [] .nil

variable {p p' : Progress} {done : List Request} {r : Request} {l first : Line}
  {more lines : List Line} {w argument : List Char}

/-- A body that reads is a clause of the request it stands in. -/
theorem Explained.body_read (h : Explained ⟨done, .inBody r first more⟩ lines) {value : Json}
    (hread : readBody first more = .ok value) :
    Explained ⟨done, .inRequest { r with body := some value }⟩ lines := by
  cases h with
  | @inBody origins _ o _ _ _ w argument complete current shape opens continues =>
    have hclause : (Clause.body first more value).IsRead := .body shape opens continues hread
    have hlines : (o.add (.body first more value)).lines = o.lines ++ first :: more :=
      o.lines_add _
    rw [List.append_assoc, ← hlines]
    exact .inRequest complete (current.add hclause)

/-- A line that does not end the open body belongs to it. -/
theorem Explained.body_more (h : Explained ⟨done, .inBody r first more⟩ lines)
    (hl : l.shape = .words w argument) (hw : keywordOf? w = none) :
    Explained ⟨done, .inBody r first (more ++ [l])⟩ (lines ++ [l]) := by
  cases h with
  | inBody complete current shape opens continues =>
    rw [List.append_assoc, List.cons_append]
    refine .inBody complete current shape opens fun m hm => ?_
    rcases List.mem_append.1 hm with hm | hm
    · exact continues m hm
    · rw [List.mem_singleton.1 hm]
      exact ⟨w, argument, hl, hw⟩

theorem Explained.closeBody (h : Explained p lines) (hp : p.closeBody = .ok p') :
    Explained p' lines ∧ ∀ r first more, p'.stage ≠ .inBody r first more := by
  obtain ⟨done, stage⟩ := p
  cases stage with
  | between => obtain rfl := Except.ok.inj hp; exact ⟨h, by simp⟩
  | inRequest r => obtain rfl := Except.ok.inj hp; exact ⟨h, by simp⟩
  | inBody r first more =>
    simp only [Progress.closeBody] at hp
    cases hread : readBody first more with
    | error fault => rw [hread] at hp; cases hp
    | ok value =>
      rw [hread] at hp
      obtain rfl := Except.ok.inj hp
      exact ⟨h.body_read hread, by simp⟩

/-- After the end of a request all lines belong to complete requests. -/
theorem Explained.closeRequest (h : Explained p lines)
    (hclosed : ∀ r first more, p.stage ≠ .inBody r first more) :
    Explained p.closeRequest lines ∧ p.closeRequest.stage = .between := by
  cases h with
  | between complete => exact ⟨.between complete, rfl⟩
  | @inRequest origins done o r complete current =>
    have hall : List.Forall₂ Origin.Yields (origins ++ [o]) (done ++ [r]) :=
      List.rel_append complete (.cons current .nil)
    have hlines : (origins ++ [o]).flatMap Origin.lines =
        origins.flatMap Origin.lines ++ o.lines := by simp
    rw [← hlines]
    exact ⟨.between hall, rfl⟩
  | inBody => exact absurd rfl (hclosed _ _ _)

/-- A line that begins a request, after the complete ones. -/
theorem Explained.begin (h : Explained ⟨done, .between⟩ lines) (hl : l.shape = .words w argument)
    (hr : beginRequest l w argument = .ok r) :
    Explained ⟨done, .inRequest r⟩ (lines ++ [l]) := by
  cases h with
  | between complete =>
    have hlines : (Origin.mk l []).lines = [l] := rfl
    rw [← hlines]
    exact .inRequest complete (Origin.yields_of_beginRequest hl hr)

/-- A line within a request whose bodies are all closed. -/
theorem Explained.words_inRequest (h : Explained ⟨done, .inRequest r⟩ lines)
    (hl : l.shape = .words w argument) (hp : words done (some r) l w argument = .ok p') :
    Explained p' (lines ++ [l]) := by
  simp only [words] at hp
  split at hp
  · rename_i hopens
    obtain rfl := Except.ok.inj hp
    cases h with
    | inRequest complete current => exact .inBody complete current hl hopens (by simp)
  · split at hp
    · cases hbegin : beginRequest l w argument with
      | error fault => rw [hbegin] at hp; cases hp
      | ok r' =>
        rw [hbegin] at hp
        obtain rfl := Except.ok.inj hp
        exact (h.closeRequest (by simp)).1.begin hl hbegin
    · cases hcontinue : continueRequest r l w argument with
      | error fault => rw [hcontinue] at hp; cases hp
      | ok r' =>
        rw [hcontinue] at hp
        obtain rfl := Except.ok.inj hp
        obtain ⟨c, hc, hlines, rfl⟩ := exists_clause_of_continueRequest hl hcontinue
        cases h with
        | @inRequest origins _ o _ complete current =>
          rw [List.append_assoc, ← hlines, ← o.lines_add c]
          exact .inRequest complete (current.add hc)

/-- One line is read as part of one request, unless it is blank or a comment. -/
theorem Explained.step (h : Explained p lines) (hp : p.step l = .ok p') :
    Explained p' (lines ++ [l].filter Line.hasWords) := by
  unfold Progress.step at hp
  split at hp
  · rename_i hl
    have hskip : [l].filter Line.hasWords = [] := by simp [Line.hasWords, hl]
    obtain rfl := Except.ok.inj hp
    rwa [hskip, List.append_nil]
  · rename_i hl
    have hskip : [l].filter Line.hasWords = [] := by simp [Line.hasWords, hl]
    rw [hskip, List.append_nil]
    cases hclose : p.closeBody with
    | error fault => rw [hclose] at hp; cases hp
    | ok q =>
      rw [hclose] at hp
      obtain rfl := Except.ok.inj hp
      obtain ⟨hq, hclosed⟩ := h.closeBody hclose
      exact (hq.closeRequest hclosed).1
  · rename_i w argument hl
    have hkept : [l].filter Line.hasWords = [l] := by simp [Line.hasWords, hl]
    rw [hkept]
    obtain ⟨done, stage⟩ := p
    cases stage with
    | between =>
      cases hbegin : beginRequest l w argument with
      | error fault => simp only [words, hbegin] at hp; cases hp
      | ok r =>
        simp only [words, hbegin] at hp
        obtain rfl := Except.ok.inj hp
        exact h.begin hl hbegin
    | inRequest r => exact h.words_inRequest hl hp
    | inBody r first more =>
      dsimp only at hp
      split at hp
      · rename_i hw
        obtain rfl := Except.ok.inj hp
        exact h.body_more hl (by simpa using hw)
      · cases hread : readBody first more with
        | error fault => rw [hread] at hp; cases hp
        | ok value =>
          rw [hread] at hp
          exact (h.body_read hread).words_inRequest hl hp

theorem Explained.foldlM_step {ls : List Line} (h : Explained p lines)
    (hp : ls.foldlM Progress.step p = .ok p') :
    Explained p' (lines ++ ls.filter Line.hasWords) := by
  induction ls generalizing p lines with
  | nil =>
    obtain rfl := Except.ok.inj hp
    rwa [List.filter_nil, List.append_nil]
  | cons l ls ih =>
    rw [List.foldlM_cons] at hp
    cases hstep : p.step l with
    | error fault => rw [hstep] at hp; cases hp
    | ok q =>
      rw [hstep] at hp
      have hrest := ih (h.step hstep) hp
      rwa [List.append_assoc, ← List.filter_append] at hrest

theorem Explained.finish {requests : List Request} (h : Explained p lines)
    (hp : p.finish = .ok requests) :
    ∃ origins, List.Forall₂ Origin.Yields origins requests ∧
      origins.flatMap Origin.lines = lines := by
  unfold Progress.finish at hp
  cases hclose : p.closeBody with
  | error fault => rw [hclose] at hp; cases hp
  | ok q =>
    rw [hclose] at hp
    obtain rfl := Except.ok.inj hp
    obtain ⟨hq, hclosed⟩ := h.closeBody hclose
    obtain ⟨hend, hstage⟩ := hq.closeRequest hclosed
    generalize q.closeRequest = e at hend hstage
    cases hend with
    | between complete => exact ⟨_, complete, rfl⟩
    | inRequest => cases hstage
    | inBody => cases hstage

end Progress

/-- Requests that are read have origins that share out the lines with words. -/
theorem exists_origins {ls : List Line} {requests : List Request}
    (h : readLines ls = .ok requests) :
    ∃ origins, List.Forall₂ Origin.Yields origins requests ∧
      origins.flatMap Origin.lines = ls.filter Line.hasWords := by
  unfold readLines at h
  cases hfold : ls.foldlM Progress.step Progress.start with
  | error fault => rw [hfold] at h; cases h
  | ok p =>
    rw [hfold] at h
    obtain ⟨origins, hyields, hlines⟩ :=
      (Progress.explained_start.foldlM_step hfold).finish h
    exact ⟨origins, hyields, hlines⟩

/-! ### Method lines -/

/-- No line of a clause begins a request. -/
theorem Clause.IsRead.not_isMethodLine {c : Clause} (h : c.IsRead) {l : Line} (hl : l ∈ c.lines) :
    ¬ l.IsMethodLine := by
  rintro ⟨w', argument', m, hshape, hmethod⟩
  have key : ∀ {l' : Line} {w argument : List Char} {k : Keyword}, l = l' →
      l'.shape = .words w argument → keywordOf? w = some k → k.isMethod = false → False := by
    rintro _ w argument k rfl hw hk hnot
    obtain ⟨rfl, -⟩ : w' = w ∧ argument' = argument := by simpa [hshape] using hw
    rw [hmethod] at hk
    obtain rfl := Option.some.inj hk
    cases hnot
  cases h with
  | header shape word => exact key (List.mem_singleton.1 hl) shape word rfl
  | save shape word => exact key (List.mem_singleton.1 hl) shape word rfl
  | http shape word => exact key (List.mem_singleton.1 hl) shape word rfl
  | wait shape word => exact key (List.mem_singleton.1 hl) shape word rfl
  | @body first more value w argument shape opens continues =>
    rcases List.mem_cons.1 hl with rfl | hl
    · obtain ⟨rfl, -⟩ : w' = w ∧ argument' = argument := by simpa [hshape] using shape
      have hcloses : opensBody w' = false :=
        Source.Spelling.opensBody_eq ⟨w', keywordOf?_eq_some_iff.1 hmethod⟩ (by simp)
      rw [opens] at hcloses
      cases hcloses
    · obtain ⟨w, argument, hw, hnone⟩ := continues l hl
      obtain ⟨rfl, -⟩ : w' = w ∧ argument' = argument := by simpa [hshape] using hw
      rw [hmethod] at hnone
      cases hnone

namespace Origin

variable {o : Origin} {r : Request}

theorem head_mem_lines (o : Origin) : o.head ∈ o.lines := List.mem_cons_self

/-- The only method line of an origin is its head. -/
theorem Yields.eq_head (h : o.Yields r) {l : Line} (hl : l ∈ o.lines) (hm : l.IsMethodLine) :
    l = o.head := by
  rcases List.mem_cons.1 hl with rfl | hl
  · rfl
  · obtain ⟨c, hc, hl⟩ := List.mem_flatMap.1 hl
    exact absurd hm ((h.read c hc).not_isMethodLine hl)

/-- The method line of an origin names the method and the url. -/
theorem Yields.head_words (h : o.Yields r) :
    ∃ first argument, o.head.shape = .words first argument ∧
      Text.upper first = r.method.toList ∧ argument = r.url.toList := by
  obtain ⟨first, argument, m, hshape, hw, -, hmethod, hurl⟩ := h.head
  have hspell := keywordOf?_eq_some_iff.1 hw
  refine ⟨first, argument, hshape, ?_, by rw [hurl, String.toList_ofList]⟩
  rw [upper_of_isWordChar fun c hc => hspell.isWordChar hc, hmethod]
  exact hspell

end Origin

/-! ### Line numbers -/

theorem le_number_of_mem_numberLines {n : Nat} {ls : List (List Char)} {l : Line}
    (h : l ∈ numberLines n ls) : n ≤ l.number := by
  induction ls generalizing n with
  | nil => cases h
  | cons s ls ih =>
    rcases List.mem_cons.1 h with rfl | h
    · exact le_rfl
    · have := ih h
      omega

theorem numberLines_ordered (n : Nat) (ls : List (List Char)) :
    (numberLines n ls).Pairwise (·.number < ·.number) := by
  induction ls generalizing n with
  | nil => exact .nil
  | cons s ls ih =>
    rw [numberLines, List.pairwise_cons]
    refine ⟨fun l hl => ?_, ih (n + 1)⟩
    have := le_number_of_mem_numberLines hl
    simp only
    omega

/-! ### Sharing out the lines -/

theorem exists_of_forall₂_left {α β : Type} {R : α → β → Prop} {as : List α} {bs : List β}
    (h : List.Forall₂ R as bs) {a : α} (ha : a ∈ as) : ∃ b ∈ bs, R a b := by
  induction h with
  | nil => cases ha
  | cons hab _ ih =>
    rcases List.mem_cons.1 ha with rfl | ha
    · exact ⟨_, List.mem_cons_self, hab⟩
    · obtain ⟨b, hb, hr⟩ := ih ha
      exact ⟨b, List.mem_cons_of_mem _ hb, hr⟩

/-- The origins of the requests of a script, which share out its lines with words in order. -/
structure SharesOut (origins : List Origin) (requests : List Request) (ls : List Line) : Prop where
  yields : List.Forall₂ Origin.Yields origins requests
  covers : origins.flatMap Origin.lines = ls.filter Line.hasWords
  ordered : ls.Pairwise (·.number < ·.number)

namespace SharesOut

variable {origins : List Origin} {requests : List Request} {ls : List Line}
  (h : SharesOut origins requests ls)
include h

theorem flatMap_ordered : (origins.flatMap Origin.lines).Pairwise (·.number < ·.number) :=
  h.covers ▸ h.ordered.filter _

theorem exists_origin {r : Request} (hr : r ∈ requests) : ∃ o ∈ origins, o.Yields r :=
  exists_of_forall₂_left h.yields.flip hr

theorem exists_request {o : Origin} (ho : o ∈ origins) : ∃ r ∈ requests, o.Yields r :=
  exists_of_forall₂_left h.yields ho

theorem mem_lines {o : Origin} (ho : o ∈ origins) {l : Line} (hl : l ∈ o.lines) :
    l ∈ ls ∧ l.hasWords = true := by
  have hmem : l ∈ origins.flatMap Origin.lines := List.mem_flatMap.2 ⟨o, ho, hl⟩
  rw [h.covers] at hmem
  exact List.mem_filter.1 hmem

theorem exists_mem_lines {l : Line} (hl : l ∈ ls) (hwords : l.hasWords = true) :
    ∃ o ∈ origins, l ∈ o.lines := by
  have hmem : l ∈ origins.flatMap Origin.lines := by
    rw [h.covers]
    exact List.mem_filter.2 ⟨hl, hwords⟩
  exact List.mem_flatMap.1 hmem

/-- Of two origins, one lies above the other with all its lines. -/
theorem trichotomy {o o' : Origin} (ho : o ∈ origins) (ho' : o' ∈ origins) :
    o = o' ∨ (∀ l ∈ o.lines, ∀ m ∈ o'.lines, l.number < m.number) ∨
      ∀ l ∈ o'.lines, ∀ m ∈ o.lines, l.number < m.number := by
  by_cases hne : o = o'
  · exact .inl hne
  · have hboth : origins.Pairwise fun a b =>
        (∀ l ∈ a.lines, ∀ m ∈ b.lines, l.number < m.number) ∨
          ∀ l ∈ b.lines, ∀ m ∈ a.lines, l.number < m.number :=
      (List.pairwise_flatMap.1 h.flatMap_ordered).2.imp fun habove => .inl habove
    have : Std.Symm fun a b : Origin => (∀ l ∈ a.lines, ∀ m ∈ b.lines, l.number < m.number) ∨
        ∀ l ∈ b.lines, ∀ m ∈ a.lines, l.number < m.number := ⟨fun _ _ => Or.symm⟩
    exact .inr (hboth.forall ho ho' hne)

/-- No line belongs to two origins. -/
theorem unique {o o' : Origin} (ho : o ∈ origins) (ho' : o' ∈ origins) {l : Line}
    (hl : l ∈ o.lines) (hl' : l ∈ o'.lines) : o' = o := by
  rcases h.trichotomy ho ho' with rfl | hbefore | hafter
  · rfl
  · exact absurd (hbefore l hl l hl') (Nat.lt_irrefl _)
  · exact absurd (hafter l hl' l hl) (Nat.lt_irrefl _)

theorem head_le {o : Origin} (ho : o ∈ origins) {l : Line} (hl : l ∈ o.lines) :
    o.head.number ≤ l.number := by
  have hlines := (List.pairwise_flatMap.1 h.flatMap_ordered).1 o ho
  rw [Origin.lines, List.pairwise_cons] at hlines
  rcases List.mem_cons.1 hl with rfl | hl
  · exact le_rfl
  · exact (hlines.1 l hl).le

/-- No method line stands between a line and the head of its origin. -/
theorem le_head {o : Origin} (ho : o ∈ origins) {l : Line} (hl : l ∈ o.lines) {m : Line}
    (hm : m ∈ ls) (hmethod : m.IsMethodLine) (hle : m.number ≤ l.number) :
    m.number ≤ o.head.number := by
  have hwords : m.hasWords = true := by
    obtain ⟨w, argument, k, hshape, -⟩ := hmethod
    simp [Line.hasWords, hshape]
  obtain ⟨o', ho', hm'⟩ := h.exists_mem_lines hm hwords
  rcases h.trichotomy ho ho' with rfl | hbefore | hafter
  · obtain ⟨r, -, hr⟩ := h.exists_request ho
    rw [hr.eq_head hm' hmethod]
  · have := hbefore l hl m hm'
    omega
  · exact (hafter m hm' o.head o.head_mem_lines).le

theorem lines_ordered : requests.Pairwise (·.line < ·.line) := by
  have heads : origins.Pairwise (·.head.number < ·.head.number) :=
    (List.pairwise_flatMap.1 h.flatMap_ordered).2.imp fun {a b} hab =>
      hab a.head a.head_mem_lines b.head b.head_mem_lines
  have hmap : List.Forall₂ (· = ·) (origins.map fun o => (o.head.number : Int))
      (requests.map (·.line)) :=
    List.forall₂_map_left_iff.2 (List.forall₂_map_right_iff.2
      (h.yields.imp fun _ _ hr => hr.line.symm))
  rw [List.forall₂_eq_eq_eq] at hmap
  have hlines : (requests.map (·.line)).Pairwise (· < ·) := by
    rw [← hmap, List.pairwise_map]
    exact heads.imp fun hlt => by omega
  exact List.pairwise_map.1 hlines

end SharesOut

theorem exists_sharesOut {text : List Char} {requests : List Request}
    (h : readScript text = .ok requests) :
    ∃ origins, SharesOut origins requests (scriptLines text) := by
  obtain ⟨origins, hyields, hcovers⟩ := exists_origins h
  exact ⟨origins, hyields, hcovers, numberLines_ordered 1 _⟩

/-- Every line with words is read once, for the request of the nearest method line at or above it,
and for nothing else. -/
theorem origins_of_readScript {text : List Char} {requests : List Request}
    (h : readScript text = .ok requests) :
    requests.Pairwise (·.line < ·.line) ∧
      (∀ r ∈ requests, ∃ l ∈ scriptLines text, ∃ first argument, (l.number : Int) = r.line ∧
        l.shape = .words first argument ∧ Text.upper first = r.method.toList ∧
        argument = r.url.toList) ∧
      ∃ origins : List Origin, List.Forall₂ Origin.Yields origins requests ∧
        origins.flatMap Origin.lines = (scriptLines text).filter Line.hasWords ∧
        (origins.flatMap Origin.lines).Nodup ∧
        (∀ l ∈ scriptLines text, l.hasWords = true → ∃! o, o ∈ origins ∧ l ∈ o.lines) ∧
        ∀ o ∈ origins, ∀ l ∈ o.lines, o.head.number ≤ l.number ∧
          ∀ m ∈ scriptLines text, m.IsMethodLine → m.number ≤ l.number →
            m.number ≤ o.head.number := by
  obtain ⟨origins, hshares⟩ := exists_sharesOut h
  refine ⟨hshares.lines_ordered, fun r hr => ?_, origins, hshares.yields, hshares.covers,
    hshares.flatMap_ordered.imp fun hlt => ?_, fun l hl hwords => ?_, fun o ho l hl => ?_⟩
  · obtain ⟨o, ho, hyields⟩ := hshares.exists_origin hr
    obtain ⟨first, argument, hshape, hmethod, hurl⟩ := hyields.head_words
    exact ⟨o.head, (hshares.mem_lines ho o.head_mem_lines).1, first, argument,
      hyields.line.symm, hshape, hmethod, hurl⟩
  · rintro rfl
    exact Nat.lt_irrefl _ hlt
  · obtain ⟨o, ho, hmem⟩ := hshares.exists_mem_lines hl hwords
    exact ⟨o, ⟨ho, hmem⟩, fun o' ⟨ho', hmem'⟩ => hshares.unique ho ho' hmem hmem'⟩
  · exact ⟨hshares.head_le ho hl, fun m hm hmethod hle => hshares.le_head ho hl hm hmethod hle⟩

/-- Two requests without a blank line between them, and a comment inside the body of the second. -/
def commentedScript : List Char :=
  "\n# users\nPost /a\nheader k v\nwait 5\nget /b\n\x7b\"a\":\n# empty\n []\x7d".toList

def commentedRequests : List Request := [
  { method := "POST", url := "/a", headers := [⟨"k", "v"⟩], waitMs := 5, line := 3 },
  { method := "GET", url := "/b", body := some (.object [("a", .array [])]), line := 6 }]

/-- The comment inside the body is left out; all other lines from the third on are shared out. -/
theorem origins_of_commentedScript :
    readScript commentedScript = .ok commentedRequests ∧
      ∃ origins : List Origin, List.Forall₂ Origin.Yields origins commentedRequests ∧
        (origins.flatMap Origin.lines).map (·.number) = [3, 4, 5, 6, 7, 9] := by
  have hread : readScript commentedScript = .ok commentedRequests := by cbv
  have hnumbers : ((scriptLines commentedScript).filter Line.hasWords).map (·.number) =
      [3, 4, 5, 6, 7, 9] := by cbv
  obtain ⟨-, -, origins, hyields, hcovers, -⟩ := origins_of_readScript hread
  exact ⟨hread, origins, hyields, by rw [hcovers, hnumbers]⟩

end HttpScript
