import HttpScript.Proofs.Script.BodyErrors

/-!
# Where the error of an argument points

An argument that is refused is looked up in its line, letter case left out of account, and the error
stands at the first place that holds it. That is the place of the argument, unless the argument also
stands further to the left. There it begins inside of the keyword: no blank begins an argument, in
whatever letter case, and the search passes over the blanks in front.
-/
namespace HttpScript

/-! ### Lines with an argument -/

/-- A line as it is written: blanks, a keyword, a space and blanks, an argument, blanks. -/
structure Line.WithArgument (l : Line) (k : Keyword) where
  indent : List Char
  word : Source.Spelling k
  gap : List Char
  argument : List Char
  trail : List Char
  source_eq : l.source = indent ++ (word.chars ++ ' ' :: (gap ++ (argument ++ trail)))
  blank_indent : ∀ c ∈ indent, Text.isBlank c = true
  blank_gap : ∀ c ∈ gap, Text.isBlank c = true
  blank_trail : ∀ c ∈ trail, Text.isBlank c = true
  trimmed : Text.trim argument = argument
  ne_nil : argument ≠ []

/-- The line holds a text at an offset, letter case left out of account. -/
def Line.HoldsAt (l : Line) (part : List Char) (i : Nat) : Prop :=
  Text.lower part <+: (Text.lower l.source).drop i

instance (l : Line) (part : List Char) : DecidablePred (l.HoldsAt part) := fun i =>
  inferInstanceAs (Decidable (Text.lower part <+: (Text.lower l.source).drop i))

theorem Line.offsetOf_eq {l : Line} {part : List Char} {i : Nat} (h : l.HoldsAt part i)
    (hfirst : ∀ j < i, ¬ l.HoldsAt part j) : l.offsetOf part = i := by
  rw [offsetOf, Text.find?_eq_some_iff.2 ⟨h, hfirst⟩, Option.getD_some]

namespace Line.WithArgument

variable {l : Line} {k : Keyword} (a : l.WithArgument k)

/-- The offset at which the argument begins. -/
def start : Nat := a.indent.length + a.word.chars.length + 1 + a.gap.length

theorem blank_separator : ∀ c ∈ ' ' :: a.gap, Text.isBlank c = true :=
  Text.forall_isBlank_cons_space a.blank_gap

theorem trim_rest : Text.trim (' ' :: (a.gap ++ (a.argument ++ a.trail))) = a.argument := by
  rw [← List.cons_append, Text.trim_append_of_blank a.blank_separator,
    Text.trim_append_blanks a.blank_trail, a.trimmed]

theorem shape_eq : l.shape = .words a.word.chars a.argument := by
  have hsource : l.source =
      a.indent ++ a.word.chars ++ ' ' :: (a.gap ++ (a.argument ++ a.trail)) := by
    rw [a.source_eq, List.append_assoc]
  rw [a.word.shape_of_source a.blank_indent (.inr ⟨_, rfl⟩) hsource, a.trim_rest]

/-- In lower case the argument begins where it is written. -/
theorem lower_source_eq : Text.lower l.source =
    a.indent ++ (Text.lower a.word.chars ++
      (' ' :: a.gap ++ (Text.lower a.argument ++ Text.lower a.trail))) := by
  have hgap : ∀ c ∈ (' ' :: a.gap ++ (a.argument ++ a.trail)).head?, Text.Separates c := by
    rintro c ⟨⟩
    exact Text.separates_of_isBlank (by decide)
  have htrail : ∀ c ∈ a.trail.head?, Text.Separates c := fun c hc =>
    Text.separates_of_isBlank (a.blank_trail c (List.mem_of_mem_head? hc))
  rw [a.source_eq, Text.lower_append_of_blanks a.blank_indent, ← List.cons_append,
    Text.lower_append_of_head hgap, Text.lower_append_of_blanks a.blank_separator,
    Text.lower_append_of_head htrail]

theorem length_lower_word : (Text.lower a.word.chars).length = a.word.chars.length := by
  refine Text.length_lower fun c hc => ?_
  have := toNat_lt_of_isWordChar (a.word.spells.isWordChar hc)
  omega

theorem holdsAt_start : l.HoldsAt a.argument a.start := by
  have hlength : a.start =
      (a.indent ++ (Text.lower a.word.chars ++ ' ' :: a.gap)).length := by
    simp only [start, List.length_append, List.length_cons, a.length_lower_word]
    omega
  rw [HoldsAt, a.lower_source_eq, ← List.append_assoc (Text.lower _), ← List.append_assoc a.indent,
    hlength, List.drop_left]
  exact List.prefix_append _ _

/-- What stands before the argument and is no part of the keyword is blank. -/
theorem within_of_holdsAt {i : Nat} (h : l.HoldsAt a.argument i) (hi : i < a.start) :
    a.indent.length ≤ i ∧ i < a.indent.length + a.word.chars.length := by
  obtain ⟨d, s, hd⟩ := List.exists_cons_of_ne_nil (Text.lower_ne_nil a.ne_nil)
  have hsolid : Text.isBlank d = false :=
    Text.isBlank_head_lower (Text.trim_eq_self_iff.1 a.trimmed).1 d (by rw [hd]; rfl)
  have hget : (Text.lower l.source)[i]? = some d := by
    obtain ⟨t, ht⟩ := h
    rw [hd] at ht
    rw [← List.head?_drop, ← ht]
    rfl
  rw [a.lower_source_eq] at hget
  by_contra hout
  have hmem : d ∈ a.indent ∨ d ∈ ' ' :: a.gap := by
    rcases Nat.lt_or_ge i a.indent.length with hlt | hge
    · rw [List.getElem?_append_left hlt] at hget
      exact .inl (List.mem_of_getElem? hget)
    · rw [List.getElem?_append_right hge, List.getElem?_append_right (by
        rw [a.length_lower_word]; omega), List.getElem?_append_left (by
        rw [a.length_lower_word, List.length_cons]; unfold start at hi; omega)] at hget
      exact .inr (List.mem_of_getElem? hget)
  have hd' : Text.isBlank d = true := hmem.elim (a.blank_indent d) (a.blank_separator d)
  rw [hsolid] at hd'
  cases hd'

/-- The argument also begins inside of the keyword. -/
def Shadowed : Prop :=
  ∃ i, a.indent.length ≤ i ∧ i < a.indent.length + a.word.chars.length ∧ l.HoldsAt a.argument i

/-- The first place that holds the argument is its own, unless the keyword has one. -/
theorem eq_start_iff {i : Nat} (h : l.HoldsAt a.argument i)
    (hfirst : ∀ j < i, ¬ l.HoldsAt a.argument j) : i = a.start ↔ ¬ a.Shadowed := by
  constructor
  · rintro rfl ⟨j, -, hj, hholds⟩
    refine hfirst j ?_ hholds
    unfold start
    omega
  · intro hshadow
    by_contra hne
    have hle : i ≤ a.start := Nat.le_of_not_lt fun hlt => hfirst _ hlt a.holdsAt_start
    obtain ⟨hleft, hright⟩ := a.within_of_holdsAt h (by omega)
    exact hshadow ⟨i, hleft, hright, h⟩

end Line.WithArgument

/-- A keyword line with an argument is written in this way. -/
theorem Line.exists_withArgument {l : Line} {first argument : List Char} {k : Keyword}
    (h : l.shape = .words first argument) (hw : keywordOf? first = some k) (hne : argument ≠ []) :
    ∃ a : l.WithArgument k, a.argument = argument := by
  obtain ⟨blanks, rest, hblanks, hends, hsource⟩ := l.exists_source_of_shape h
  let word : Source.Spelling k := ⟨first, keywordOf?_eq_some_iff.1 hw⟩
  have hargument := word.shape_of_source hblanks hends hsource
  rw [h] at hargument
  obtain ⟨-, rfl⟩ := Shape.words.inj hargument
  obtain ⟨rest, rfl⟩ := hends.resolve_left fun hall => hne (Text.trim_eq_nil_iff.2 hall)
  obtain ⟨left, right, hleft, hright, hrest⟩ := Text.exists_trim rest
  have htrim : Text.trim (' ' :: rest) = Text.trim rest :=
    Text.trim_append_of_blank (Text.forall_isBlank_cons_space (List.forall_mem_nil _))
  refine ⟨⟨blanks, word, left, Text.trim rest, right, ?_, hblanks, hleft, hright,
    Text.trim_trim rest, by rwa [htrim] at hne⟩, htrim.symm⟩
  rw [hsource, List.append_assoc, ← List.append_assoc left, ← hrest]

/-! ### Refused arguments -/

def Keyword.takesNumber : Keyword → Bool
  | .http | .wait => true
  | _ => false

def Keyword.takesField : Keyword → Bool
  | .header | .save => true
  | _ => false

/-- The keyword does not take the argument: a number has a character that is no digit, or a name has
no value behind it. The error stands at the first character of the one and at the last of the
other. -/
inductive Keyword.Refuses (k : Keyword) (argument : List Char) : SyntaxFault → Nat → Prop
  | number (takes : k.takesNumber = true) (other : ∃ c ∈ argument, c.isDigit = false) :
      Refuses k argument .expectedNumber 1
  | value (takes : k.takesField = true) (single : ' ' ∉ argument) :
      Refuses k argument .expectedValue argument.length

/-- The fault is one of a number, or of a name without a value. -/
def SyntaxFault.isOfArgument : SyntaxFault → Bool
  | .expectedNumber | .expectedValue => true
  | _ => false

section

variable {l : Line} {first argument : List Char} {k : Keyword} {e : SyntaxError}

theorem Line.number?_eq_syntaxError_iff (htrim : Text.trim argument = argument) :
    l.number? first argument = .error (.syntaxError e) ↔
      (argument = [] ∧ e = l.errorAtEnd first .expectedNumber) ∨
      (argument ≠ [] ∧ (∃ c ∈ argument, c.isDigit = false) ∧
        e = l.errorAt argument .expectedNumber) := by
  by_cases hnil : argument = []
  · simp [number?, hnil, eq_comm (a := e)]
  · have hdigits := fun digits => @wholeNumber?_eq_some_iff argument digits htrim
    rw [number?, if_neg (by simpa using hnil)]
    cases hnumber : wholeNumber? argument with
    | none =>
      have hother : ∃ c ∈ argument, c.isDigit = false := by
        by_contra! hall
        rw [(hdigits argument).2 ⟨rfl, hnil, by simpa using hall⟩] at hnumber
        cases hnumber
      simp [hnil, hother, eq_comm (a := e)]
    | some digits =>
      obtain ⟨rfl, -, hall⟩ := (hdigits digits).1 hnumber
      have hother : ¬ ∃ c ∈ digits, c.isDigit = false := by simpa using hall
      simp only [hnil, hother, false_and, and_false, or_self, iff_false]
      split <;> simp

theorem Line.field?_eq_syntaxError_iff (htrim : Text.trim argument = argument) :
    l.field? first argument = .error (.syntaxError e) ↔
      (argument = [] ∧ e = l.errorAtEnd first .expectedIdentifier) ∨
      (argument ≠ [] ∧ ' ' ∉ argument ∧ e = l.errorAtEnd argument .expectedValue) := by
  by_cases hnil : argument = []
  · simp [field?, hnil, eq_comm (a := e)]
  · rw [field?, if_neg (by simpa using hnil)]
    by_cases hspace : ' ' ∈ argument
    · obtain ⟨name, rest, rfl, hname⟩ := List.eq_append_cons_of_mem hspace
      have hvalue : Text.trim rest ≠ [] := by
        -- else the argument would end in a blank
        intro htail
        have hblank := Text.forall_isBlank_cons_space (Text.trim_eq_nil_iff.1 htail)
        have hlast := List.getLast?_eq_some_getLast (List.cons_ne_nil ' ' rest)
        have hsolid := (Text.trim_eq_self_iff.1 htrim).2 _
          (by rw [List.getLast?_append_of_ne_nil _ (List.cons_ne_nil ' ' rest)]; exact hlast)
        rw [hblank _ (List.getLast_mem _)] at hsolid
        cases hsolid
      simp [Text.splitAtSpace_append hname, hvalue]
    · simp [Text.splitAtSpace_of_not_mem hspace, hnil, hspace, Text.trim_nil, eq_comm (a := e)]

theorem continueRequest_of_takesNumber (hw : keywordOf? first = some k)
    (hk : k.takesNumber = true) (r : Request) (l : Line) (argument : List Char) :
    ∃ f : Nat → Request, continueRequest r l first argument =
      l.number? first argument >>= fun n => pure (f n) := by
  cases k with
  | http | wait => exact ⟨_, by rw [continueRequest, hw]⟩
  | _ => cases hk

theorem continueRequest_of_takesField (hw : keywordOf? first = some k)
    (hk : k.takesField = true) (r : Request) (l : Line) (argument : List Char) :
    ∃ f : Field → Request, continueRequest r l first argument =
      l.field? first argument >>= fun x => pure (f x) := by
  cases k with
  | header | save => exact ⟨_, by rw [continueRequest, hw]⟩
  | _ => cases hk

theorem continueRequest_of_takesNone (hw : keywordOf? first = some k)
    (hnumber : k.takesNumber = false) (hfield : k.takesField = false) (r : Request) :
    continueRequest r l first argument =
      .error (.syntaxError (l.errorAt first .unknownSymbol)) := by
  cases k with
  | method | capture => rw [continueRequest, hw]
  | http | wait => cases hnumber
  | header | save => cases hfield

theorem Keyword.takesField_of_takesNumber (h : k.takesNumber = true) : k.takesField = false := by
  cases k with
  | http | wait => rfl
  | _ => cases h

theorem Line.errorAtEnd_eq (l : Line) {part : List Char} (hne : part ≠ []) (fault : SyntaxFault) :
    l.errorAtEnd part fault = ⟨fault, l.number, l.offsetOf part + part.length, l.source⟩ := by
  have hlength := List.length_pos_iff.2 hne
  rw [errorAtEnd, Nat.max_eq_left (by omega)]

/-- Of a keyword line that fails for a number or a value, the argument is refused, or it is left out
where a number stands. -/
theorem continueRequest_eq_refusal_iff {r : Request} (hl : l.shape = .words first argument)
    (hw : keywordOf? first = some k) :
    continueRequest r l first argument = .error (.syntaxError e) ∧ e.fault.isOfArgument = true ↔
      (k.takesNumber = true ∧ argument = [] ∧ e = l.errorAtEnd first .expectedNumber) ∨
      (argument ≠ [] ∧ ∃ fault width, k.Refuses argument fault width ∧
        e = ⟨fault, l.number, l.offsetOf argument + width, l.source⟩) := by
  have htrim := Line.trim_of_shape hl
  cases hnumber : k.takesNumber with
  | true =>
    have hfield := Keyword.takesField_of_takesNumber hnumber
    obtain ⟨f, hf⟩ := continueRequest_of_takesNumber hw hnumber r l argument
    rw [hf, bind_pure_eq_error_iff, Line.number?_eq_syntaxError_iff htrim]
    constructor
    · rintro ⟨⟨hnil, rfl⟩ | ⟨hne, hother, rfl⟩, -⟩
      · exact .inl ⟨rfl, hnil, rfl⟩
      · exact .inr ⟨hne, _, _, .number hnumber hother, rfl⟩
    · rintro (⟨-, hnil, rfl⟩ | ⟨hne, _, _, ⟨-, hother⟩ | ⟨takes, -⟩, rfl⟩)
      · exact ⟨.inl ⟨hnil, rfl⟩, rfl⟩
      · exact ⟨.inr ⟨hne, hother, rfl⟩, rfl⟩
      · rw [hfield] at takes
        cases takes
  | false =>
    cases hfield : k.takesField with
    | true =>
      obtain ⟨f, hf⟩ := continueRequest_of_takesField hw hfield r l argument
      rw [hf, bind_pure_eq_error_iff, Line.field?_eq_syntaxError_iff htrim]
      constructor
      · rintro ⟨⟨-, rfl⟩ | ⟨hne, hsingle, rfl⟩, hfault⟩
        · cases hfault
        · exact .inr ⟨hne, _, _, .value hfield hsingle, l.errorAtEnd_eq hne _⟩
      · rintro (⟨⟨⟩, -⟩ | ⟨hne, _, _, ⟨takes, -⟩ | ⟨-, hsingle⟩, rfl⟩)
        · rw [hnumber] at takes
          cases takes
        · exact ⟨.inr ⟨hne, hsingle, (l.errorAtEnd_eq hne _).symm⟩, rfl⟩
    | false =>
      rw [continueRequest_of_takesNone hw hnumber hfield]
      constructor
      · rintro ⟨hunknown, hfault⟩
        cases hunknown
        cases hfault
      · rintro (⟨⟨⟩, -⟩ | ⟨-, _, _, ⟨takes, -⟩ | ⟨takes, -⟩, -⟩)
        · rw [hnumber] at takes
          cases takes
        · rw [hfield] at takes
          cases takes

end

/-! ### Lines of a request -/

/-- A line of a script that stands within a request: everything above it is read, and a request is
open where it begins. -/
inductive IsInRequest (lines : List Line) (l : Line) : Prop
  | intro {above below : List Line} {p : Progress} {done : List Request} {r : Request}
      (split : lines = above ++ l :: below)
      (reads : above.foldlM Progress.step Progress.start = .ok p)
      (opened : p.closeBody = .ok ⟨done, .inRequest r⟩)

section

variable {l : Line} {first argument : List Char} {e : SyntaxError}

theorem isOfArgument_of_beginRequest
    (h : beginRequest l first argument = .error (.syntaxError e)) :
    e.fault.isOfArgument = false := by
  unfold beginRequest at h
  split at h
  · cases h; rfl
  · split at h
    · cases h; rfl
    · cases h
  · cases h; rfl

theorem isOfBody_of_readBody {first : Line} {more : List Line}
    (h : readBody first more = .error (.syntaxError e)) : e.fault.isOfBody = true := by
  obtain ⟨cause, -, herror⟩ := readBody_eq_error_iff.1 h
  cases cause with
  | malformed what left | nonFinite what left => cases herror; rfl
  | longInteger digits => cases herror

theorem SyntaxFault.isOfArgument_of_isOfBody {fault : SyntaxFault} (h : fault.isOfBody = true) :
    fault.isOfArgument = false := by
  cases fault <;> first | rfl | cases h

namespace Progress

variable {p : Progress} {done : List Request}

/-- Of what a line may do, only going on with a request fails for an argument. -/
theorem continueRequest_of_words {current : Option Request}
    (h : words done current l first argument = .error (.syntaxError e))
    (hfault : e.fault.isOfArgument = true) : ∃ r k, current = some r ∧
      keywordOf? first = some k ∧ continueRequest r l first argument = .error (.syntaxError e) := by
  have hbegin : beginRequest l first argument ≠ .error (.syntaxError e) := by
    intro hbegin
    rw [isOfArgument_of_beginRequest hbegin] at hfault
    cases hfault
  unfold words at h
  split at h
  · exact absurd (eq_error_of_bind_pure h) hbegin
  · rename_i r
    split at h
    · cases h
    · split at h
      · exact absurd (eq_error_of_bind_pure h) hbegin
      · have hcontinue := eq_error_of_bind_pure h
        cases hw : keywordOf? first with
        | some k => exact ⟨r, k, rfl, rfl, hcontinue⟩
        | none =>
          rw [continueRequest, hw] at hcontinue
          cases hcontinue
          cases hfault

theorem continueRequest_of_step (h : p.step l = .error (.syntaxError e))
    (hfault : e.fault.isOfArgument = true) :
    ∃ done r first argument k, p.closeBody = .ok ⟨done, .inRequest r⟩ ∧
      l.shape = .words first argument ∧ keywordOf? first = some k ∧
      continueRequest r l first argument = .error (.syntaxError e) := by
  have hread : ∀ {first more}, readBody first more ≠ .error (.syntaxError e) := by
    intro first more hread
    rw [SyntaxFault.isOfArgument_of_isOfBody (isOfBody_of_readBody hread)] at hfault
    cases hfault
  cases hl : l.shape with
  | comment => rw [step, hl] at h; cases h
  | blank =>
    rw [step, hl] at h
    obtain ⟨d, r, first, more, -, hbody⟩ := exists_body_of_closeBody (eq_error_of_bind_pure h)
    exact absurd hbody hread
  | words first argument =>
    obtain ⟨d, stage⟩ := p
    rw [step, hl] at h
    cases stage with
    | between =>
      obtain ⟨r, k, hnone, -⟩ := continueRequest_of_words h hfault
      cases hnone
    | inRequest r =>
      obtain ⟨_, k, ⟨⟩, hw, hcontinue⟩ := continueRequest_of_words h hfault
      exact ⟨d, r, first, argument, k, rfl, rfl, hw, hcontinue⟩
    | inBody r f more =>
      dsimp only at h
      split at h
      · cases h
      · obtain hbody | ⟨v, hv, hwords⟩ := bind_eq_error_iff.1 h
        · exact absurd hbody hread
        · obtain ⟨_, k, ⟨⟩, hw, hcontinue⟩ := continueRequest_of_words hwords hfault
          refine ⟨d, _, first, argument, k, ?_, rfl, hw, hcontinue⟩
          simp only [closeBody, hv]
          rfl

end Progress

/-- A line of a request that fails ends the reading. -/
theorem IsInRequest.readLines_eq {lines : List Line} (h : IsInRequest lines l) {k : Keyword}
    {fault : ScriptFault} (hl : l.shape = .words first argument)
    (hw : keywordOf? first = some k) (hmethod : k.isMethod = false) (hk : k ≠ .capture)
    (hfails : ∀ r, continueRequest r l first argument = .error fault) :
    readLines lines = .error fault := by
  cases h with
  | @intro above below p done r split reads opened =>
    have hopens : opensBody first = false :=
      Source.Spelling.opensBody_eq ⟨first, keywordOf?_eq_some_iff.1 hw⟩ hk
    have hstep : p.step l = .error fault := by
      rw [Progress.step_keyword opened hl hw]
      simp only [Progress.words, hopens, hw, hfails, Bool.false_eq_true, if_false]
      cases k with
      | method m => cases hmethod
      | _ => rfl
    rw [readLines, split, List.foldlM_append, reads]
    simp only [bind, Except.bind, List.foldlM_cons, hstep]

theorem exists_isInRequest {lines : List Line}
    (h : readLines lines = .error (.syntaxError e)) (hfault : e.fault.isOfArgument = true) :
    ∃ l r first argument k, IsInRequest lines l ∧ l.shape = .words first argument ∧
      keywordOf? first = some k ∧
      continueRequest r l first argument = .error (.syntaxError e) := by
  obtain hfold | ⟨p, hfold, hfinish⟩ := bind_eq_error_iff.1 h
  · obtain ⟨above, l, below, p, rfl, hreads, hstep⟩ := exists_of_foldlM_error hfold
    obtain ⟨done, r, first, argument, k, hopened, hl, hw, hcontinue⟩ :=
      Progress.continueRequest_of_step hstep hfault
    exact ⟨l, r, first, argument, k, .intro rfl hreads hopened, hl, hw, hcontinue⟩
  · obtain ⟨d, r, first, more, -, hbody⟩ :=
      Progress.exists_body_of_closeBody (eq_error_of_bind_pure hfinish)
    rw [SyntaxFault.isOfArgument_of_isOfBody (isOfBody_of_readBody hbody)] at hfault
    cases hfault

end

theorem Keyword.Refuses.keyword {k : Keyword} {argument : List Char} {fault : SyntaxFault}
    {width : Nat} (h : k.Refuses argument fault width) :
    k.takesNumber = true ∨ k.takesField = true := by
  cases h with
  | number takes => exact .inl takes
  | value takes => exact .inr takes

theorem Keyword.isMethod_of_takes {k : Keyword} (h : k.takesNumber = true ∨ k.takesField = true) :
    k.isMethod = false ∧ k ≠ .capture := by
  cases k with
  | method | capture => simp [takesNumber, takesField] at h
  | _ => exact ⟨rfl, Keyword.noConfusion⟩

/-- Where a script fails for a number or for a value that is missing, a line of a request has no
number at all, or its keyword does not take its argument. The error then stands at the first place
of the line that holds the argument, letter case left out of account. That is where the argument
is written exactly when none begins inside of the keyword. -/
theorem readScript_refused_argument (text : List Char) (e : SyntaxError) :
    readScript text = .error (.syntaxError e) ∧ e.fault.isOfArgument = true ↔
      ∃ (l : Line) (k : Keyword), IsInRequest (scriptLines text) l ∧
        ((k.takesNumber = true ∧ ∃ word, keywordOf? word = some k ∧ l.shape = .words word [] ∧
            e = l.errorAtEnd word .expectedNumber) ∨
          ∃ (a : l.WithArgument k) (fault : SyntaxFault) (width i : Nat),
            k.Refuses a.argument fault width ∧
            l.HoldsAt a.argument i ∧ (∀ j < i, ¬ l.HoldsAt a.argument j) ∧
            e = ⟨fault, l.number, i + width, l.source⟩ ∧
            (e.column = a.start + width ↔ ¬ a.Shadowed)) := by
  constructor
  · rintro ⟨hread, hfault⟩
    obtain ⟨l, r, first, argument, k, hline, hl, hw, hcontinue⟩ := exists_isInRequest hread hfault
    refine ⟨l, k, hline, ?_⟩
    rcases (continueRequest_eq_refusal_iff hl hw).1 ⟨hcontinue, hfault⟩ with
      ⟨hk, rfl, rfl⟩ | ⟨hne, fault, width, hrefuses, rfl⟩
    · exact .inl ⟨hk, first, hw, hl, rfl⟩
    · obtain ⟨a, rfl⟩ := Line.exists_withArgument hl hw hne
      let i := Nat.find ⟨a.start, a.holdsAt_start⟩
      have hi : l.HoldsAt a.argument i := Nat.find_spec ⟨a.start, a.holdsAt_start⟩
      have hfirst : ∀ j < i, ¬ l.HoldsAt a.argument j := fun j hj => Nat.find_min _ hj
      refine .inr ⟨a, fault, width, i, hrefuses, hi, hfirst, ?_, ?_⟩
      · rw [Line.offsetOf_eq hi hfirst]
      · rw [← a.eq_start_iff hi hfirst, Line.offsetOf_eq hi hfirst]
        exact Nat.add_right_cancel_iff
  · rintro ⟨l, k, hline,
      ⟨hk, word, hw, hl, rfl⟩ | ⟨a, fault, width, i, hrefuses, hi, hfirst, rfl, -⟩⟩
    · have hcontinue := fun r => (continueRequest_eq_refusal_iff (r := r) hl hw).2
        (.inl ⟨hk, rfl, rfl⟩)
      obtain ⟨hmethod, hcapture⟩ := Keyword.isMethod_of_takes (.inl hk)
      exact ⟨hline.readLines_eq hl hw hmethod hcapture fun r => (hcontinue r).1, rfl⟩
    · have hl := a.shape_eq
      have hw := a.word.keywordOf?_eq
      have hcontinue := fun r => (continueRequest_eq_refusal_iff (r := r) hl hw).2
        (.inr ⟨a.ne_nil, fault, width, hrefuses, by rw [Line.offsetOf_eq hi hfirst]⟩)
      obtain ⟨hmethod, hcapture⟩ := Keyword.isMethod_of_takes hrefuses.keyword
      exact ⟨hline.readLines_eq hl hw hmethod hcapture fun r => (hcontinue r).1,
        by cases hrefuses <;> rfl⟩

example : readScript "get /x\nheader e".toList =
    .error (.syntaxError ⟨.expectedValue, 2, 2, "header e".toList⟩) := by cbv

/-- The second line of a script whose argument is a letter of its keyword. -/
def statusLine : Line := ⟨2, "http h".toList⟩

def statusArgument : statusLine.WithArgument .http where
  indent := []
  word := ⟨"http".toList, by decide⟩
  gap := []
  argument := ['h']
  trail := []
  source_eq := by rfl
  blank_indent := by simp
  blank_gap := by simp
  blank_trail := by simp
  trimmed := by decide
  ne_nil := by simp

/-- The error of an argument may stand on the keyword. -/
theorem not_forall_column_eq :
    ¬ ∀ (text : List Char) (e : SyntaxError) (l : Line) (k : Keyword) (a : l.WithArgument k)
      (fault : SyntaxFault) (width : Nat), readScript text = .error (.syntaxError e) →
        IsInRequest (scriptLines text) l → k.Refuses a.argument fault width →
          e.column = a.start + width := by
  intro h
  have hread : readScript "get /x\nhttp h".toList =
      .error (.syntaxError ⟨.expectedNumber, 2, 1, "http h".toList⟩) := by cbv
  have hreads : [⟨1, "get /x".toList⟩].foldlM Progress.step Progress.start =
      .ok ⟨[], .inRequest { method := "GET", url := "/x", line := 1 }⟩ := by cbv
  have hsplit : scriptLines "get /x\nhttp h".toList =
      [⟨1, "get /x".toList⟩] ++ statusLine :: [] := by cbv
  have hline : IsInRequest (scriptLines "get /x\nhttp h".toList) statusLine :=
    .intro hsplit hreads rfl
  have hrefuses : Keyword.http.Refuses statusArgument.argument .expectedNumber 1 :=
    .number rfl ⟨'h', List.mem_singleton_self _, by decide⟩
  have hcolumn := h _ _ _ _ statusArgument _ _ hread hline hrefuses
  exact absurd hcolumn (by decide)

end HttpScript
