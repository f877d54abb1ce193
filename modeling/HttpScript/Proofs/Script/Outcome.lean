import HttpScript.Proofs.Json.Faults
import HttpScript.Proofs.Script.Faults

/-!
# What reading a script ends in

A script is read or has a syntax error, whatever its words and arguments are, with one exception.
Neither the numbers of a script nor those of its bodies are bounded where they are read, so an integer
with more digits than can be converted stops the reader with an error that names no place. Its
digits stand in a row on one line.
-/
namespace HttpScript

theorem Json.IsLong.exists_piece {n : Nat} {ls : List (List Char)} (hne : ls ≠ [])
    (h : IsLong n (['\n'].intercalate ls)) : ∃ l ∈ ls, IsLong n l := by
  obtain ⟨hlimit, digits, hdigits, hlength, hall⟩ := h
  have hbreak : '\n' ∉ digits := fun hmem => absurd (hall _ hmem) (by decide)
  obtain ⟨l, hl, hpart⟩ := Text.exists_infix_of_intercalate hbreak hne hdigits
  exact ⟨l, hl, hlimit, digits, hpart, hlength, hall⟩

theorem infix_source {text : List Char} {l : Line} (h : l ∈ scriptLines text) :
    l.source <:+: text := by
  obtain ⟨s, hs, hsource⟩ := source_of_mem_numberLines h
  rw [Text.splitOn_eq] at hs
  have hpiece : s <:+: text := by
    simpa only [List.intercalate_splitOn] using Text.infix_intercalate '\n' hs
  rw [hsource]
  exact (List.rdropWhile_prefix _ s).isInfix.trans hpiece

/-! ### Which lines are refused for the length of an integer -/

section

variable {l : Line} {w argument : List Char} {n : Nat}

theorem beginRequest_ne_longInteger : beginRequest l w argument ≠ .error (.longInteger n) := by
  intro h
  unfold beginRequest at h
  split at h
  · cases h
  · split at h <;> cases h
  · cases h

theorem Line.field?_ne_longInteger : l.field? w argument ≠ .error (.longInteger n) := by
  intro h
  unfold field? at h
  split at h
  · cases h
  · dsimp only at h
    split at h <;> cases h

/-- Within a request the argument of `http` or `wait` is the only one that is converted. -/
theorem number?_of_continueRequest {r : Request}
    (h : continueRequest r l w argument = .error (.longInteger n)) :
    l.number? w argument = .error (.longInteger n) := by
  unfold continueRequest at h
  split at h
  · exact eq_error_of_bind_pure h
  · exact absurd (eq_error_of_bind_pure h) Line.field?_ne_longInteger
  · exact eq_error_of_bind_pure h
  · exact absurd (eq_error_of_bind_pure h) Line.field?_ne_longInteger
  · cases h

theorem isLong_of_readBody {first : Line} {more : List Line}
    (h : readBody first more = .error (.longInteger n)) :
    ∃ l ∈ first :: more, Json.IsLong n l.source := by
  obtain ⟨fault, hread, hfault⟩ := readBody_eq_error_iff.1 h
  cases fault with
  | malformed | nonFinite => cases hfault
  | longInteger digits =>
    obtain rfl : digits = n := ScriptFault.longInteger.inj hfault
    have hlong := Json.read_isLong hread
    rw [bodyText_eq] at hlong
    obtain ⟨s, hs, hs'⟩ := hlong.exists_piece (by simp)
    obtain ⟨l, hl, rfl⟩ := List.mem_map.1 hs
    exact ⟨l, hl, hs'⟩

theorem ScriptFault.From.isLong {lines : List Line} (h : (longInteger n).From lines) :
    ∃ l ∈ lines, Json.IsLong n l.source := by
  cases h with
  | outside line shape fails => exact absurd fails beginRequest_ne_longInteger
  | @inside _ l w argument line shape opens fails =>
    obtain ⟨hdigits, hlength, hlimit⟩ := (l.number?_eq_longInteger_iff w
      (Line.trim_of_shape shape)).1 (number?_of_continueRequest fails)
    exact ⟨l, line, hlimit, argument, Line.infix_of_shape shape, hlength, hdigits⟩
  | body lines shape opens continues fails =>
    obtain ⟨l, hl, hlong⟩ := isLong_of_readBody fails
    exact ⟨l, lines l hl, hlong⟩

end

/-- A script is read, or has a syntax error, or holds an integer that is too long to be read. The
first words of its lines are never empty and have a first token, unless a brace opens them. -/
theorem readScript_outcome (text : List Char) :
    ((∃ requests, readScript text = .ok requests) ∨
      (∃ e, readScript text = .error (.syntaxError e)) ∨
      ∃ n, readScript text = .error (.longInteger n) ∧ Json.IsLong n text) ∧
    ∀ l ∈ scriptLines text, ∀ first argument, l.shape = .words first argument →
      ∃ c s, first = c :: s ∧ (c = '\x7b' ∨ ∃ t, (Cursor.ofText first).next.1 = .ok t) := by
  constructor
  · cases hread : readScript text with
    | ok requests => exact .inl ⟨requests, rfl⟩
    | error fault =>
      cases fault with
      | syntaxError e => exact .inr (.inl ⟨e, rfl⟩)
      | longInteger n =>
        obtain ⟨l, hl, hlong⟩ := (readLines_fault hread).isLong
        exact .inr (.inr ⟨n, rfl, hlong.mono (infix_source hl)⟩)
  · intro l _ first argument hl
    obtain ⟨c, s, rfl, hblank⟩ := Line.first_of_shape hl
    refine ⟨c, s, rfl, ?_⟩
    by_cases hbrace : c = '\x7b'
    · exact .inl hbrace
    · exact .inr (Cursor.exists_token_of_head hblank hbrace)

/-! ### Integers that are too long -/

/-- More digits than the reader takes. -/
structure LongNumeral where
  chars : List Char
  digits : ∀ c ∈ chars, c.isDigit = true
  long : Json.integerDigitLimit < chars.length

/-- A number that is too long is an argument all the same. -/
def LongNumeral.argument (n : LongNumeral) : Source.Argument where
  chars := n.chars
  ne_nil := List.ne_nil_of_length_pos (Nat.zero_lt_of_lt n.long)
  trimmed := trim_of_digits n.digits
  oneLine := fun h => absurd (n.digits _ h) (by decide)

/-- Within a request, a status or a wait with more digits than the reader takes ends the reading,
whatever stands above and below it. -/
theorem readLines_longNumber {above : List (List Char)} (below : List (List Char)) {p : Progress}
    {done : List Request} {r : Request}
    (habove : (numberLines 1 above).foldlM Progress.step Progress.start = .ok p)
    (hp : p.closeBody = .ok ⟨done, .inRequest r⟩) {k : Keyword} (hk : k = .http ∨ k = .wait)
    (w : Source.Spelling k) (n : LongNumeral) :
    readLines (numberLines 1 (above ++ (w.chars ++ ' ' :: n.chars) :: below)) =
      .error (.longInteger n.chars.length) := by
  set l : Line := ⟨1 + above.length, Text.dropRightWhile (· == '\r') (w.chars ++ ' ' :: n.chars)⟩
    with hl
  have hshape : l.shape = .words w.chars n.chars := w.shape_eq n.argument rfl
  have hnumber : l.number? w.chars n.chars = .error (.longInteger n.chars.length) :=
    (l.number?_eq_longInteger_iff w.chars n.argument.trimmed).2 ⟨n.digits, rfl, n.long⟩
  have hopens : opensBody w.chars = false := w.opensBody_eq (by rcases hk with rfl | rfl <;> simp)
  have hstep : p.step l = .error (.longInteger n.chars.length) := by
    rw [Progress.step_keyword hp hshape w.keywordOf?_eq]
    rcases hk with rfl | rfl <;>
      simp only [Progress.words, continueRequest, hopens, w.keywordOf?_eq, hnumber] <;> rfl
  rw [readLines, numberLines_append, List.foldlM_append, habove]
  simp only [bind, Except.bind]
  rw [numberLines, ← hl, List.foldlM_cons, hstep]
  rfl

/-- A request with this text as its expected status. -/
def statusScript (status : List Char) : List Char :=
  ['\n'].intercalate ["get /x".toList, "http".toList ++ ' ' :: status]

theorem readScript_statusScript (n : LongNumeral) :
    readScript (statusScript n.chars) = .error (.longInteger n.chars.length) := by
  have hbreak : '\n' ∉ n.chars := n.argument.oneLine
  have hlines : Text.splitOn '\n' (statusScript n.chars) =
      ["get /x".toList, "http".toList ++ ' ' :: n.chars] := by
    rw [Text.splitOn_eq, statusScript]
    exact List.splitOn_intercalate _ (by simp [hbreak]) (by simp)
  have habove : (numberLines 1 ["get /x".toList]).foldlM Progress.step Progress.start =
      .ok ⟨[], .inRequest { method := "GET", url := "/x", line := 1 }⟩ := by cbv
  rw [readScript, hlines]
  exact readLines_longNumber [] habove rfl (.inl rfl) ⟨"http".toList, rfl⟩ n

/-- One digit more than the reader takes is neither read nor a syntax error. -/
theorem not_forall_read_or_syntaxError :
    ¬ ∀ text, (∃ requests, readScript text = .ok requests) ∨
      ∃ e, readScript text = .error (.syntaxError e) := by
  intro h
  have hread := readScript_statusScript ⟨List.replicate (Json.integerDigitLimit + 1) '1',
    fun c hc => by rw [List.eq_of_mem_replicate hc]; decide, by rw [List.length_replicate]; omega⟩
  rcases h (statusScript (List.replicate (Json.integerDigitLimit + 1) '1')) with
    ⟨requests, hok⟩ | ⟨e, he⟩
  · rw [hread] at hok
    cases hok
  · rw [hread] at he
    cases he

end HttpScript
