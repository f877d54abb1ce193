import HttpScript.Proofs.Except
import HttpScript.Proofs.Script.Source

/-!
# Every well-formed script is read

The reader is followed line by line. Within a block the request read so far is the one that the
items so far stand for; a body is open until the next line that is no part of it, and only that
line closes it.
-/
namespace HttpScript

open Source

/-! ### Numbered lines -/

theorem numberLines_append (n : Nat) (a b : List (List Char)) :
    numberLines n (a ++ b) = numberLines n a ++ numberLines (n + a.length) b := by
  induction a generalizing n with
  | nil => simp [numberLines]
  | cons l a ih =>
    have hn : n + (a.length + 1) = n + 1 + a.length := by omega
    simp only [List.cons_append, numberLines, List.length_cons, ih, hn]

theorem map_source_numberLines (n : Nat) (ls : List (List Char)) :
    (numberLines n ls).map Line.source = ls.map (Text.dropRightWhile (· == '\r')) := by
  induction ls generalizing n with
  | nil => rfl
  | cons l ls ih => simp only [numberLines, List.map_cons, ih]

theorem source_of_mem_numberLines {n : Nat} {ls : List (List Char)} {l : Line}
    (h : l ∈ numberLines n ls) : ∃ s ∈ ls, l.source = Text.dropRightWhile (· == '\r') s := by
  have hmem : l.source ∈ (numberLines n ls).map Line.source := List.mem_map_of_mem h
  rw [map_source_numberLines] at hmem
  obtain ⟨s, hs, hl⟩ := List.mem_map.1 hmem
  exact ⟨s, hs, hl.symm⟩

theorem foldlM_line {p p' : Progress} {n : Nat} {s : List Char}
    (h : p.step ⟨n, Text.dropRightWhile (· == '\r') s⟩ = .ok p') :
    (numberLines n [s]).foldlM Progress.step p = .ok p' := by
  rw [numberLines, numberLines, List.foldlM_cons, h]
  rfl

/-- Lines after other lines, each stretch read from where the one before it ends. -/
theorem foldlM_numberLines {n : Nat} {a b : List (List Char)} {p q r : Progress}
    (ha : (numberLines n a).foldlM Progress.step p = .ok q)
    (hb : (numberLines (n + a.length) b).foldlM Progress.step q = .ok r) :
    (numberLines n (a ++ b)).foldlM Progress.step p = .ok r := by
  rw [numberLines_append, List.foldlM_append, ha]
  exact hb

/-! ### Lines of a body -/

theorem bodyText_eq (first : Line) (more : List Line) :
    bodyText first more = ['\n'].intercalate ((first :: more).map Line.source) := by
  have key : ∀ (more : List Line) (text : List Char),
      more.foldl (fun text l => text ++ '\n' :: l.source) text =
        ['\n'].intercalate (text :: more.map Line.source) := by
    intro more
    induction more with
    | nil => intro text; simp
    | cons l more ih =>
      intro text
      rw [List.foldl_cons, ih, List.map_cons, List.intercalate_cons_cons]
      cases more with
      | nil => simp
      | cons m more => simp [List.intercalate_cons_cons]
  exact key more first.source

section

variable {first : Line} {more : List Line}

theorem readBody_eq_ok_iff {v : Json} :
    readBody first more = .ok v ↔ Json.read .refuse (bodyText first more) = .ok v :=
  mapError_eq_ok_iff

/-- A body is refused for the fault of its text. -/
theorem readBody_eq_error_iff {fault : ScriptFault} :
    readBody first more = .error fault ↔
      ∃ cause, Json.read .refuse (bodyText first more) = .error cause ∧
        bodyError first more (bodyText first more) cause = fault :=
  mapError_eq_error_iff

end

theorem readBody_of_lines (b : Body) {first : Line} {more : List Line}
    (h : (first :: more).map Line.source =
      (b.chars.splitOn '\n').map (Text.dropRightWhile (· == '\r'))) :
    readBody first more = .ok b.value := by
  have hlines : ∀ l ∈ b.chars.splitOn '\n', '\n' ∉ l := fun _ => Text.not_mem_of_mem_splitOn
  have hread : Json.read .refuse (Text.dropReturns b.chars) = .ok b.value :=
    Json.read_dropReturns (Json.read_refuse_of_accept b.reads b.finite)
  rw [readBody_eq_ok_iff, bodyText_eq, h, ← Text.dropReturns_intercalate hlines,
    List.intercalate_splitOn]
  exact hread

theorem isBlank_of_isSpace {c : Char} (h : Json.isSpace c = true) : Text.isBlank c = true := by
  simp only [Json.isSpace, Bool.or_eq_true, beq_iff_eq] at h
  rcases h with ((rfl | rfl) | rfl) | rfl <;> decide

theorem skipSpace_ne_nil {s : List Char} (h : Text.trim s ≠ []) : Json.skipSpace s ≠ [] := by
  intro hs
  rw [Json.skipSpace, List.dropWhile_eq_nil_iff] at hs
  exact h (Text.trim_eq_nil_iff.2 fun c hc => isBlank_of_isSpace (hs c hc))

theorem skipSpace_append {s : List Char} (h : Json.skipSpace s ≠ []) (u : List Char) :
    Json.skipSpace (s ++ u) = Json.skipSpace s ++ u := by
  rw [Json.skipSpace, List.dropWhile_append, if_neg (by simpa [Json.skipSpace] using h)]
  rfl

theorem trim_of_skipSpace {s t : List Char} {c : Char} (h : Json.skipSpace s = c :: t)
    (hc : Text.isBlank c = false) : Text.trim s = c :: Text.dropRightWhile Text.isBlank t := by
  have hspace : ∀ d ∈ s.takeWhile Json.isSpace, Text.isBlank d = true := fun d hd =>
    isBlank_of_isSpace (List.mem_takeWhile_imp hd)
  rw [← List.takeWhile_append_dropWhile (p := Json.isSpace) (l := s), ← Json.skipSpace, h,
    Text.trim_append_of_blank hspace, Text.trim_cons hc]

theorem startsToken_cases {c : Char} (h : Json.startsToken c = true) :
    c.isDigit = true ∨ c ∈ "-ntfNI\"[\x7b]\x7d:,".toList := by
  simp only [Json.startsToken, Json.startsValue, Json.startsScalar, Bool.or_eq_true] at h
  rcases h with (( h | h) | h) | h
  · exact .inl h
  all_goals
    right
    simp at h ⊢
    tauto

theorem isBlank_of_startsToken {c : Char} (h : Json.startsToken c = true) :
    Text.isBlank c = false ∧ c ≠ '#' ∧ c ≠ ' ' := by
  rcases startsToken_cases h with hd | hd
  · have hword : isWordChar c = true := by simp [isWordChar, Char.isAlphanum, hd]
    refine ⟨isBlank_of_isWordChar hword, ?_, ?_⟩ <;> rintro rfl <;> exact absurd hd (by decide)
  · have hall : ∀ d ∈ "-ntfNI\"[\x7b]\x7d:,".toList,
        Text.isBlank d = false ∧ d ≠ '#' ∧ d ≠ ' ' := by simp; decide
    exact hall c hd

/-- A line that begins with a token is words, and the first of them begins like the token. -/
theorem shape_of_token {s t : List Char} {c : Char} (h : Json.skipSpace s = c :: t)
    (hc : Json.startsToken c = true) {l : Line}
    (hl : l.source = Text.dropRightWhile (· == '\r') s) :
    ∃ w argument, l.shape = .words (c :: w) argument ∧ w <+: t := by
  obtain ⟨hblank, hcomment, hspace⟩ := isBlank_of_startsToken hc
  have htrim : Text.trim l.source = c :: Text.dropRightWhile Text.isBlank t := by
    rw [hl, Text.trim_dropRightWhile (by simp; decide), trim_of_skipSpace h hblank]
  rw [Line.shape, htrim]
  split
  · rename_i hs; cases hs
  · rename_i hs; exact absurd (List.cons.inj hs).1 hcomment
  · rw [Text.splitAtSpace_eq, List.takeWhile_cons_of_pos (by simpa using hspace)]
    exact ⟨_, _, rfl, (List.takeWhile_prefix _).trans (List.rdropWhile_prefix _ _)⟩

/-- No keyword begins like a token of a body. -/
theorem keywordOf?_of_token {c : Char} {w t : List Char} (h : Json.OpensLine (c :: t))
    (hw : w <+: t) : keywordOf? (c :: w) = none := by
  rw [Option.eq_none_iff_forall_ne_some]
  intro k hk
  have hspell := keywordOf?_eq_some_iff.1 hk
  obtain ⟨htoken, hbracket⟩ := h c t rfl
  have hc : c = '[' := by
    obtain ⟨d, s, hd, hu⟩ := hspell.head
    obtain ⟨rfl, rfl⟩ := List.cons.inj hd
    rcases startsToken_cases htoken with hdigit | hmem
    · rw [toUpper_of_not_isLower (not_isLower_of_isDigit hdigit)] at hu
      exact absurd hdigit (by simp [not_isDigit_of_mem_initials hu])
    · have hall : ∀ d ∈ "-ntfNI\"[\x7b]\x7d:,".toList, d.toUpper ∈ "GPDHWS[".toList → d = '[' := by
        simp
      exact hall c hmem hu
  subst hc
  have hall : ∀ k ∈ Keyword.all, k.spelling.toList.head? = some '[' →
      k.spelling.toList.tail.head? = some 'C' := by decide
  have hsecond := hall k k.mem_all (by rw [← hspell]; rfl)
  rw [← hspell] at hsecond
  obtain ⟨d, hd, hupper⟩ : ∃ d, w.head? = some d ∧ d.toUpper = 'C' := by
    simpa using hsecond
  obtain ⟨u, rfl⟩ := hw
  obtain ⟨v, rfl⟩ := List.head?_eq_some_iff.1 hd
  exact hbracket rfl d (v ++ u) rfl hupper

/-! ### Steps of the reader -/

namespace Progress

variable {p : Progress} {done : List Request} {r : Request} {l : Line} {w argument : List Char}

/-- A keyword line finds the body before it closed. -/
theorem step_keyword {k : Keyword} (hp : p.closeBody = .ok ⟨done, .inRequest r⟩)
    (hl : l.shape = .words w argument) (hw : keywordOf? w = some k) :
    p.step l = words done (some r) l w argument := by
  obtain ⟨d, stage⟩ := p
  rw [step, hl]
  cases stage with
  | between => cases hp
  | inRequest q => cases hp; rfl
  | inBody q first more =>
    simp only [closeBody, bind, Except.bind] at hp
    simp only [hw, Option.isNone_some, Bool.false_eq_true, if_false, bind, Except.bind]
    split at hp
    · cases hp
    · cases hp; rfl

/-- A line of a request that is neither a method line nor the start of a body. -/
theorem words_continue {k : Keyword} {r' : Request} (hopens : opensBody w = false)
    (hw : keywordOf? w = some k) (hk : k.isMethod = false)
    (hr : continueRequest r l w argument = .ok r') :
    words done (some r) l w argument = .ok ⟨done, .inRequest r'⟩ := by
  simp only [words, hopens, hw, Bool.false_eq_true, if_false]
  split
  · rename_i hm; cases hm; cases hk
  · rw [hr]; rfl

theorem beginRequest_method {m : Method} (hw : keywordOf? w = some (.method m))
    (ha : argument ≠ []) :
    beginRequest l w argument =
      .ok { method := m.name, url := .ofList argument, line := l.number } := by
  have ha : argument.isEmpty = false := by simpa using ha
  simp only [beginRequest, hw, ha, Bool.false_eq_true, if_false]

theorem finish_inBody {d : List Request} {first : Line} {more : List Line}
    (hp : finish ⟨d, .inBody r first more⟩ = .ok done) :
    ∃ body, readBody first more = .ok body ∧ done = d ++ [{ r with body := some body }] := by
  simp only [finish, closeBody] at hp
  cases hbody : readBody first more with
  | error fault => rw [hbody] at hp; cases hp
  | ok body => rw [hbody] at hp; exact ⟨body, rfl, (Except.ok.inj hp).symm⟩

/-- A method line closes what is open and begins a request, wherever it stands. -/
theorem step_method {m : Method} (hp : p.finish = .ok done) (hl : l.shape = .words w argument)
    (hopens : opensBody w = false) (hw : keywordOf? w = some (.method m)) (ha : argument ≠ []) :
    p.step l =
      .ok ⟨done, .inRequest { method := m.name, url := .ofList argument, line := l.number }⟩ := by
  have hbegin := beginRequest_method (l := l) hw ha
  obtain ⟨d, stage⟩ := p
  cases stage with
  | between =>
    obtain rfl : d = done := Except.ok.inj hp
    simp only [step, hl, words, hbegin]
    rfl
  | inRequest q =>
    obtain rfl : d ++ [q] = done := Except.ok.inj hp
    simp only [step, hl, words, hopens, hw, hbegin]
    rfl
  | inBody q first more =>
    obtain ⟨body, hbody, rfl⟩ := finish_inBody hp
    simp only [step, hl, words, hopens, hw, hbegin, hbody]
    rfl

/-- After a blank line the reader stands where the end of the script leaves it. -/
theorem step_of_blank (hl : l.shape = .blank) (p : Progress) :
    p.step l = p.finish.map (⟨·, .between⟩) := by
  obtain ⟨d, stage⟩ := p
  cases stage with
  | between | inRequest => rw [step, hl]; rfl
  | inBody q first more =>
    simp only [step, hl, finish, closeBody]
    cases readBody first more <;> rfl

/-- A blank line closes what is open. -/
theorem step_blank (hp : p.finish = .ok done) (hl : l.shape = .blank) :
    p.step l = .ok ⟨done, .between⟩ := by
  rw [step_of_blank hl, hp]
  rfl

theorem finish_of_closeBody (hp : p.closeBody = .ok ⟨done, .inRequest r⟩) :
    p.finish = .ok (done ++ [r]) := by
  simp only [finish, hp]
  rfl

/-- The lines after the first one of a body are kept as they are. -/
theorem foldlM_body (first : Line) (more read : List Line)
    (h : ∀ l ∈ more, ∃ w argument, l.shape = .words w argument ∧ keywordOf? w = none) :
    more.foldlM step ⟨done, .inBody r first read⟩ =
      .ok ⟨done, .inBody r first (read ++ more)⟩ := by
  induction more generalizing read with
  | nil => simp [pure, Except.pure]
  | cons l more ih =>
    obtain ⟨w, argument, hl, hw⟩ := h l List.mem_cons_self
    have hstep : step ⟨done, .inBody r first read⟩ l =
        .ok ⟨done, .inBody r first (read ++ [l])⟩ := by
      simp only [step, hl, hw, Option.isNone_none, if_true]
    rw [List.foldlM_cons, hstep, List.append_cons read l more]
    exact ih (read ++ [l]) fun m hm => h m (List.mem_cons_of_mem l hm)

end Progress

namespace Source

/-- No keyword but the bracketed one opens a body. -/
theorem Spelling.opensBody_eq {k : Keyword} (s : Spelling k) (hk : k ≠ .capture) :
    opensBody s.chars = false := by
  obtain ⟨c, t, hc, hu⟩ := s.spells.head
  have hall : ∀ k ∈ Keyword.all, k.spelling.toList.head? = some '[' → k = .capture := by decide
  rw [hc]
  unfold opensBody
  split
  · rename_i h
    obtain rfl := (List.cons.inj h).1
    exact absurd hu (by decide)
  · rename_i h
    obtain rfl := (List.cons.inj h).1
    have hspell := s.spells
    rw [hc, Keyword.Spells] at hspell
    exact absurd (hall k k.mem_all (by rw [← hspell]; rfl)) hk
  · rfl

/-! ### Items -/

/-- What an item adds to a request. -/
def Item.apply (r : Request) : Item → Request
  | .header _ name value =>
    { r with headers := r.headers ++ [⟨.ofList name.chars, .ofList value.chars⟩] }
  | .save _ name value =>
    { r with captures := r.captures ++ [⟨.ofList name.chars, .ofList value.chars⟩] }
  | .http _ n => { r with expectedStatus := Nat.ofDigitChars 10 n.chars 0 }
  | .wait _ n => { r with waitMs := Nat.ofDigitChars 10 n.chars 0 }
  | .body b => { r with body := some b.value }

/-- The line of a keyword and its argument is all there is of an item, and adds it to a request. -/
structure Item.IsLine (i : Item) {k : Keyword} (w : Spelling k) (a : Argument) : Prop where
  lines : i.lines = [w.chars ++ ' ' :: a.chars]
  inRequest : k ≠ .capture ∧ k.isMethod = false
  continues : ∀ r l, continueRequest r l w.chars a.chars = .ok (i.apply r)

/-- An item is a keyword line, or a body. -/
theorem Item.isLine_of_body? {i : Item} (hi : i.body? = none) :
    ∃ (k : Keyword) (w : Spelling k) (a : Argument), i.IsLine w a := by
  cases i with
  | header w name value =>
    refine ⟨_, w, name.field value, rfl, by decide, fun r l => ?_⟩
    simp only [continueRequest, w.keywordOf?_eq, Name.field?_eq]
    rfl
  | save w name value =>
    refine ⟨_, w, name.field value, rfl, by decide, fun r l => ?_⟩
    simp only [continueRequest, w.keywordOf?_eq, Name.field?_eq]
    rfl
  | http w n =>
    refine ⟨_, w, n.argument, rfl, by decide, fun r l => ?_⟩
    simp only [continueRequest, w.keywordOf?_eq, Numeral.argument, n.number?_eq]
    rfl
  | wait w n =>
    refine ⟨_, w, n.argument, rfl, by decide, fun r l => ?_⟩
    simp only [continueRequest, w.keywordOf?_eq, Numeral.argument, n.number?_eq]
    rfl
  | body b => cases hi

theorem Item.eq_body_of_body? {i : Item} {v : Json} (hi : i.body? = some v) :
    ∃ b, i = .body b := by
  cases i with
  | body b => exact ⟨b, rfl⟩
  | _ => cases hi

theorem Item.IsLine.step {i : Item} {k : Keyword} {w : Spelling k} {a : Argument}
    (h : i.IsLine w a) {p : Progress} {done : List Request} {r : Request}
    (hp : p.closeBody = .ok ⟨done, .inRequest r⟩) {l : Line}
    (hl : l.source = Text.dropRightWhile (· == '\r') (w.chars ++ ' ' :: a.chars)) :
    p.step l = .ok ⟨done, .inRequest (i.apply r)⟩ := by
  rw [Progress.step_keyword hp (w.shape_eq a hl) w.keywordOf?_eq]
  exact Progress.words_continue (w.opensBody_eq h.inRequest.1) w.keywordOf?_eq h.inRequest.2
    (h.continues r l)

/-- The lines of a body leave it open, and it then reads as its value. -/
theorem Body.foldlM_lines (b : Body) (n : Nat) (done : List Request) (r : Request) :
    ∃ p, (numberLines n (b.chars.splitOn '\n')).foldlM Progress.step ⟨done, .inRequest r⟩ = .ok p ∧
      p.closeBody = .ok ⟨done, .inRequest { r with body := some b.value }⟩ := by
  obtain ⟨s, ss, hlines⟩ := List.exists_cons_of_ne_nil (List.splitOn_ne_nil '\n' b.chars)
  have hopen := Json.read_linesOpen b.reads
  obtain ⟨c, t, hhead, hc⟩ := Json.read_container_head b.reads b.container
  set first : Line := ⟨n, Text.dropRightWhile (· == '\r') s⟩ with hfirst
  set more := numberLines (n + 1) ss with hmore
  have hstep : Progress.step ⟨done, .inRequest r⟩ first = .ok ⟨done, .inBody r first []⟩ := by
    obtain ⟨d, v, hd⟩ := List.exists_cons_of_ne_nil
      (skipSpace_ne_nil (b.solid s (by rw [hlines]; exact List.mem_cons_self)))
    obtain rfl : d = c := by
      obtain ⟨u, hu⟩ := Text.append_of_splitOn_eq_cons hlines
      rw [hu, skipSpace_append (by rw [hd]; simp), hd] at hhead
      exact (List.cons.inj hhead).1
    have htoken : Json.startsToken d = true := by rcases hc with rfl | rfl <;> decide
    have hopens : ∀ w, opensBody (d :: w) = true := by rcases hc with rfl | rfl <;> simp [opensBody]
    obtain ⟨w, argument, hshape, -⟩ := shape_of_token hd htoken (l := first) rfl
    simp only [Progress.step, hshape, Progress.words, hopens, if_true]
  have hrest : ∀ l ∈ more, ∃ w argument, l.shape = .words w argument ∧ keywordOf? w = none := by
    intro l hl
    obtain ⟨u, hu, hsource⟩ := source_of_mem_numberLines hl
    have hopens : Json.OpensLine (Json.skipSpace u) :=
      hopen.mem_tail_lines (by rw [hlines]; exact hu)
    obtain ⟨d, v, hd⟩ := List.exists_cons_of_ne_nil
      (skipSpace_ne_nil (b.solid u (by rw [hlines]; exact List.mem_cons_of_mem s hu)))
    rw [hd] at hopens
    obtain ⟨w, argument, hshape, hw⟩ := shape_of_token hd (hopens d v rfl).1 hsource
    exact ⟨_, argument, hshape, keywordOf?_of_token hopens hw⟩
  have hbody : readBody first more = .ok b.value := by
    apply readBody_of_lines
    rw [hlines, List.map_cons, map_source_numberLines]
    rfl
  refine ⟨⟨done, .inBody r first more⟩, ?_, ?_⟩
  · rw [hlines, numberLines, List.foldlM_cons, hstep]
    exact Progress.foldlM_body first more [] hrest
  · simp only [Progress.closeBody, hbody]
    rfl

/-- The reader after the lines of some items: the request is what they make of it, and a body is
open only if the last of them is one. -/
theorem foldlM_items (items : List Item) (horder : items.IsChain Item.MayFollow) (n : Nat)
    {p : Progress} {done : List Request} {r : Request}
    (hp : p.closeBody = .ok ⟨done, .inRequest r⟩)
    (hbody : ∀ i ∈ items.head?, i.body?.isSome → p = ⟨done, .inRequest r⟩) :
    ∃ p', (numberLines n (items.flatMap Item.lines)).foldlM Progress.step p = .ok p' ∧
      p'.closeBody = .ok ⟨done, .inRequest (items.foldl Item.apply r)⟩ := by
  induction items generalizing n p r with
  | nil => exact ⟨p, rfl, hp⟩
  | cons i items ih =>
    have horder' := horder.tail
    have hnext : ∀ j ∈ items.head?, i.MayFollow j := by
      intro j hj
      obtain ⟨rest, rfl⟩ := List.head?_eq_some_iff.1 hj
      exact (List.isChain_cons_cons.1 horder).1
    rw [List.flatMap_cons, numberLines_append, List.foldlM_append, List.foldl_cons]
    cases hi : i.body? with
    | none =>
      obtain ⟨k, w, a, hline⟩ := Item.isLine_of_body? hi
      rw [hline.lines, numberLines, numberLines, List.foldlM_cons, hline.step hp rfl]
      exact ih horder' _ rfl fun _ _ _ => rfl
    | some v =>
      obtain ⟨b, rfl⟩ := Item.eq_body_of_body? hi
      obtain ⟨p', hfold, hp'⟩ := b.foldlM_lines n done r
      rw [hbody (.body b) rfl rfl, Item.lines, hfold]
      exact ih horder' _ hp' fun j hj hsome => absurd ⟨rfl, hsome⟩ (hnext j hj)

/-- The request that the items make is the one the block stands for. -/
theorem foldl_apply (items : List Item) (r : Request) :
    items.foldl Item.apply r =
      { r with
        headers := r.headers ++ items.filterMap Item.header?
        body := (items.filterMap Item.body?).getLast?.or r.body
        expectedStatus := ((items.filterMap Item.status?).getLast?.map Int.ofNat).getD r.expectedStatus
        captures := r.captures ++ items.filterMap Item.capture?
        waitMs := ((items.filterMap Item.wait?).getLast?.map Int.ofNat).getD r.waitMs } := by
  induction items using List.reverseRecOn with
  | nil => simp
  | append_singleton items i ih =>
    rw [List.foldl_append, ih]
    cases i <;> simp [Item.apply, Item.header?, Item.body?, Item.status?, Item.capture?, Item.wait?]

/-! ### Blocks -/

theorem Block.name_eq (b : Block) : b.method.name = .ofList (b.word.chars.map Char.toUpper) := by
  rw [show b.word.chars.map Char.toUpper = b.method.name.toList from b.word.spells,
    String.ofList_toList]

theorem Block.foldl_items (b : Block) (n : Nat) :
    b.items.foldl Item.apply
      { method := b.method.name, url := .ofList b.url.chars, line := n } = b.request n := by
  have hlast : ∀ ns : List Nat, (ns.getLast?.map Int.ofNat).getD 0 = (ns.getLastD 0 : Nat) := by
    intro ns
    rw [List.getLastD_eq_getLast?]
    cases ns.getLast? <;> rfl
  rw [foldl_apply, Block.request, b.name_eq]
  simp only [List.nil_append, Option.or_none, hlast]

theorem foldlM_blankLines (bs : List BlankLine) (n : Nat) {p : Progress} {done : List Request}
    (hp : p.finish = .ok done) :
    ∃ p', (numberLines n (blankLines bs)).foldlM Progress.step p = .ok p' ∧
      p'.finish = .ok done := by
  induction bs generalizing n p with
  | nil => exact ⟨p, rfl, hp⟩
  | cons b bs ih =>
    rw [blankLines, List.map_cons, numberLines, List.foldlM_cons,
      Progress.step_blank hp (b.shape_eq rfl)]
    exact ih (n + 1) rfl

theorem Block.foldlM_lines (b : Block) (n : Nat) {p : Progress} {done : List Request}
    (hp : p.finish = .ok done) :
    ∃ p', (numberLines n b.lines).foldlM Progress.step p = .ok p' ∧
      p'.finish = .ok (done ++ [b.request n]) := by
  set l : Line := ⟨n, Text.dropRightWhile (· == '\r') (b.word.chars ++ ' ' :: b.url.chars)⟩ with hl
  have hstep := Progress.step_method hp (b.word.shape_eq b.url (l := l) rfl)
    (b.word.opensBody_eq (by simp)) b.word.keywordOf?_eq b.url.ne_nil
  obtain ⟨p', hfold, hp'⟩ := foldlM_items b.items b.ordered (n + 1)
    (p := ⟨done, .inRequest { method := b.method.name, url := .ofList b.url.chars, line := n }⟩)
    rfl fun _ _ _ => rfl
  refine ⟨p', ?_, by rw [Progress.finish_of_closeBody hp', b.foldl_items]⟩
  rw [Block.lines, numberLines, ← hl, List.foldlM_cons, hstep]
  exact hfold

theorem foldlM_blocks (blocks : List (Block × List BlankLine)) (n : Nat) {p : Progress}
    {done : List Request} (hp : p.finish = .ok done) :
    ∃ p', (numberLines n (blockLines blocks)).foldlM Progress.step p = .ok p' ∧
      p'.finish = .ok (done ++ requestsFrom n blocks) := by
  induction blocks generalizing n p done with
  | nil => exact ⟨p, rfl, by rw [hp, requestsFrom, List.append_nil]⟩
  | cons x blocks ih =>
    obtain ⟨b, bs⟩ := x
    obtain ⟨p₁, h₁, hp₁⟩ := b.foldlM_lines n hp
    obtain ⟨p₂, h₂, hp₂⟩ := foldlM_blankLines bs (n + b.lines.length) hp₁
    obtain ⟨p₃, h₃, hp₃⟩ := ih (n + b.lines.length + bs.length) hp₂
    refine ⟨p₃, ?_, by rw [hp₃, requestsFrom, List.append_assoc]; rfl⟩
    have hlength : (b.lines ++ blankLines bs).length = b.lines.length + bs.length := by
      simp [blankLines]
    rw [blockLines, List.flatMap_cons, numberLines_append, numberLines_append, List.append_assoc,
      List.foldlM_append, h₁]
    simp only [bind, Except.bind]
    rw [List.foldlM_append, h₂, hlength, ← Nat.add_assoc]
    exact h₃

/-! ### Scripts -/

theorem Spelling.oneLine {k : Keyword} (w : Spelling k) (a : Argument) :
    '\n' ∉ w.chars ++ ' ' :: a.chars := by
  simp [w.not_mem (c := '\n') (by decide), a.oneLine]

theorem Item.oneLine {i : Item} {l : List Char} (h : l ∈ i.lines) : '\n' ∉ l := by
  cases hi : i.body? with
  | none =>
    obtain ⟨k, w, a, hline⟩ := Item.isLine_of_body? hi
    rw [hline.lines] at h
    obtain rfl := List.mem_singleton.1 h
    exact w.oneLine a
  | some v =>
    obtain ⟨b, rfl⟩ := Item.eq_body_of_body? hi
    exact Text.not_mem_of_mem_splitOn h

theorem not_mem_of_mem_lines {s : Script} {l : List Char} (h : l ∈ s.lines) : '\n' ∉ l := by
  have hblank : ∀ bs : List BlankLine, l ∈ blankLines bs → '\n' ∉ l := by
    intro bs hl
    obtain ⟨b, -, rfl⟩ := List.mem_map.1 hl
    exact b.oneLine
  rcases List.mem_append.1 h with h | h
  · exact hblank _ h
  · obtain ⟨⟨b, bs⟩, -, h⟩ := List.mem_flatMap.1 h
    rcases List.mem_append.1 h with h | h
    · rcases List.mem_cons.1 h with rfl | h
      · exact b.word.oneLine b.url
      · obtain ⟨i, -, h⟩ := List.mem_flatMap.1 h
        exact Item.oneLine h
    · exact hblank _ h

/-- A script is read as the requests of its blocks, in their order. -/
theorem Script.readScript_text (s : Script) :
    readScript s.text = .ok (requestsFrom (s.lead.length + 1) s.blocks) := by
  have hfold : ∃ p, (numberLines 1 s.lines).foldlM Progress.step Progress.start = .ok p ∧
      p.finish = .ok (requestsFrom (s.lead.length + 1) s.blocks) := by
    have hstart : Progress.start.finish = .ok [] := rfl
    obtain ⟨p₁, h₁, hp₁⟩ := foldlM_blankLines s.lead 1 hstart
    obtain ⟨p₂, h₂, hp₂⟩ := foldlM_blocks s.blocks (s.lead.length + 1) hp₁
    refine ⟨p₂, ?_, hp₂⟩
    rw [Script.lines, numberLines_append, List.foldlM_append, h₁]
    have hlength : 1 + (blankLines s.lead).length = s.lead.length + 1 := by
      simp [blankLines, Nat.add_comm]
    rw [hlength]
    exact h₂
  obtain ⟨p, hp, hfinish⟩ := hfold
  rw [readScript, Script.text, Text.splitOn_eq]
  by_cases hlines : s.lines = []
  · rw [hlines] at hp ⊢
    obtain rfl : Progress.start = p := Except.ok.inj hp
    rw [← hfinish]
    rfl
  · rw [List.splitOn_intercalate _ (fun l hl => not_mem_of_mem_lines hl) hlines, readLines, hp]
    exact hfinish

/-- A body over two lines, the second of which begins with a bracket. -/
def sampleBody : Body where
  chars := "\x7b\"a\":\n [1]\x7d".toList
  value := .object [("a", .array [.int 1])]
  reads := by cbv
  container := rfl
  finite := fun which left h => by
    have hread : Json.read .refuse "\x7b\"a\":\n [1]\x7d".toList =
        .ok (.object [("a", .array [.int 1])]) := by cbv
    rw [hread] at h
    cases h
  solid := by decide

def sampleBlock : Block where
  method := .post
  word := ⟨"Post".toList, rfl⟩
  url := ⟨"/a".toList, by decide, by decide, by decide⟩
  items := [.body sampleBody,
    .wait ⟨"wait".toList, rfl⟩ ⟨"5".toList, by decide, by simp, by simp [Json.integerDigitLimit]⟩]
  ordered := by simp [Item.MayFollow, Item.body?]

example : (Script.mk [] [(sampleBlock, [⟨" ".toList, by decide, by decide⟩])]).text =
    "Post /a\n\x7b\"a\":\n [1]\x7d\nwait 5\n ".toList := by decide

example : sampleBlock.request 1 =
    { method := "POST", url := "/a", body := some (.object [("a", .array [.int 1])]),
      waitMs := 5, line := 1 } := by rfl

end Source

end HttpScript
