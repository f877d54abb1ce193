import HttpScript.Proofs.Script.Keywords
import HttpScript.Proofs.Text.Lines
import HttpScript.Template.Basic

/-!
# Which templates read

A template reads exactly when it is made of texts with references between them: two opening braces,
a dot and an identifier with blanks around, two closing braces. There is one way to cut it like that,
because braces pair up as early as they can. Its expansion is the texts with values in the place of
the references. Any other template fails at the first pair of opening braces that begins no
reference.
-/
namespace HttpScript

/-- A letter or underscore, followed by letters, digits and underscores. -/
def IsIdentifier (s : List Char) : Prop :=
  ∃ c rest, s = c :: rest ∧ (c.isAlpha ∨ c = '_') ∧ ∀ d ∈ rest, d.isAlphanum ∨ d = '_'

theorem isName_iff {s : List Char} : Template.isName s = true ↔ IsIdentifier s := by
  cases s with
  | nil => simp [Template.isName, IsIdentifier]
  | cons c rest =>
    simp [Template.isName, IsIdentifier, Template.isNameStart, Template.isNameChar]

theorem IsIdentifier.isWordChar {s : List Char} (h : IsIdentifier s) {c : Char} (hc : c ∈ s) :
    isWordChar c = true := by
  obtain ⟨first, rest, rfl, hfirst, hrest⟩ := h
  have hword : ∀ d : Char, d.isAlphanum = true ∨ d = '_' → HttpScript.isWordChar d = true := by
    rintro d (hd | rfl)
    · simp [HttpScript.isWordChar, hd]
    · decide
  rcases List.mem_cons.1 hc with rfl | hc
  · exact hword c (hfirst.imp_left fun h => by simp [Char.isAlphanum, h])
  · exact hword c (hrest c hc)

namespace Template

/-! ### Pairs of braces -/

/-- A text that goes as far as the first pair of `mark` in a longer one. -/
structure BeforePair (mark : Char) (s : List Char) : Prop where
  noPair : ¬ [mark, mark] <:+: s
  last : s.getLast? ≠ some mark

/-- What goes as far as a pair makes none with the mark after it. -/
theorem beforePair_iff {mark : Char} {s : List Char} :
    BeforePair mark s ↔ ¬ [mark, mark] <:+: s ++ [mark] := by
  have hlast : [mark, mark] <:+ s ++ [mark] ↔ s.getLast? = some mark := by
    rw [← List.singleton_append, List.suffix_append_inj_of_length_eq rfl,
      List.getLast?_eq_some_iff]
    exact ⟨fun h => h.1.imp fun t ht => ht.symm, fun ⟨t, ht⟩ => ⟨⟨t, ht.symm⟩, rfl⟩⟩
  rw [List.infix_concat_iff, hlast, not_or]
  exact ⟨fun h => ⟨h.last, h.noPair⟩, fun h => ⟨h.2, h.1⟩⟩

theorem splitAtPair_pair (mark : Char) (s : List Char) :
    splitAtPair mark (mark :: mark :: s) = some ([], s) := by
  simp [splitAtPair]

theorem splitAtPair_cons {mark a : Char} {s : List Char} (h : ¬ [mark, mark] <+: a :: s) :
    splitAtPair mark (a :: s) =
      (splitAtPair mark s).map fun (before, rest) => (a :: before, rest) := by
  cases s with
  | nil => rfl
  | cons b s =>
    rw [splitAtPair, if_neg]
    rintro hpair
    simp only [Bool.and_eq_true, beq_iff_eq] at hpair
    obtain ⟨rfl, rfl⟩ := hpair
    exact h (List.prefix_append [_, _] s)

theorem splitAtPair_eq_none_iff {mark : Char} {s : List Char} :
    splitAtPair mark s = none ↔ ¬ [mark, mark] <:+: s := by
  induction s with
  | nil => simp [splitAtPair]
  | cons a s ih =>
    by_cases hpair : [mark, mark] <+: a :: s
    · obtain ⟨t, ht⟩ := hpair
      rw [← ht, List.cons_append, List.singleton_append, splitAtPair_pair]
      simpa using (List.prefix_append [mark, mark] t).isInfix
    · rw [splitAtPair_cons hpair, Option.map_eq_none_iff, ih, List.infix_cons_iff, not_or]
      exact (and_iff_right hpair).symm

theorem beforePair_nil (mark : Char) : BeforePair mark [] := ⟨by simp, by simp⟩

theorem beforePair_cons {mark a : Char} {s rest : List Char}
    (h : ¬ [mark, mark] <+: a :: (s ++ mark :: rest)) :
    BeforePair mark (a :: s) ↔ BeforePair mark s := by
  have hprefix : ¬ [mark, mark] <+: a :: (s ++ [mark]) := by
    refine fun hp => h (hp.trans ?_)
    rw [List.append_cons s mark rest, ← List.cons_append]
    exact List.prefix_append _ _
  rw [beforePair_iff, beforePair_iff, List.cons_append, List.infix_cons_iff, or_iff_right hprefix]

theorem splitAtPair_eq_some_iff {mark : Char} {s before rest : List Char} :
    splitAtPair mark s = some (before, rest) ↔
      s = before ++ mark :: mark :: rest ∧ BeforePair mark before := by
  induction s generalizing before with
  | nil => simp [splitAtPair]
  | cons a s ih =>
    by_cases hpair : [mark, mark] <+: a :: s
    · obtain ⟨t, ht⟩ := hpair
      rw [← ht, List.cons_append, List.singleton_append, splitAtPair_pair]
      constructor
      · intro h
        cases h
        exact ⟨rfl, beforePair_nil mark⟩
      · rintro ⟨heq, hbefore⟩
        cases before with
        | nil => cases heq; rfl
        | cons b before =>
          -- The pair in front would have to stand before the first pair.
          have hfront : [mark, mark] <+: b :: before ++ [mark] := by
            refine List.prefix_of_prefix_length_le ⟨t, heq⟩ ?_ (by simp)
            rw [List.append_cons (b :: before) mark (mark :: rest)]
            exact List.prefix_append _ _
          exact absurd hfront.isInfix (beforePair_iff.1 hbefore)
    · rw [splitAtPair_cons hpair, Option.map_eq_some_iff]
      constructor
      · rintro ⟨⟨p, r⟩, hp, he⟩
        cases he
        obtain ⟨rfl, hbefore⟩ := ih.1 hp
        exact ⟨rfl, (beforePair_cons hpair).2 hbefore⟩
      · rintro ⟨heq, hbefore⟩
        cases before with
        | nil => exact absurd (heq ▸ List.prefix_append [mark, mark] rest) hpair
        | cons b before =>
          obtain ⟨rfl, rfl⟩ := List.cons.inj heq
          exact ⟨(before, rest), ih.2 ⟨rfl, (beforePair_cons hpair).1 hbefore⟩, rfl⟩

theorem splitAtPair_append {mark : Char} {before : List Char} (h : BeforePair mark before)
    (rest : List Char) : splitAtPair mark (before ++ mark :: mark :: rest) = some (before, rest) :=
  splitAtPair_eq_some_iff.2 ⟨rfl, h⟩

/-! ### References -/

/-- What stands between the braces of a reference, around the dot before the name. -/
structure IsField (left name right : List Char) : Prop where
  left : ∀ c ∈ left, Text.isBlank c = true
  name : IsIdentifier name
  right : ∀ c ∈ right, Text.isBlank c = true

theorem fieldName?_eq_some_iff {action name : List Char} :
    fieldName? action = some name ↔
      ∃ left right, IsField left name right ∧ action = left ++ '.' :: (name ++ right) := by
  unfold fieldName?
  constructor
  · intro h
    obtain ⟨left, right, hleft, hright, haction⟩ := Text.exists_trim action
    split at h
    · rename_i field htrim
      split at h
      · rename_i hname
        obtain rfl := Option.some.inj h
        refine ⟨left, right, ⟨hleft, isName_iff.1 hname, hright⟩, ?_⟩
        rw [haction, htrim, List.append_assoc, List.cons_append]
      · cases h
    · cases h
  · rintro ⟨left, right, hfield, rfl⟩
    rw [Text.trim_append_of_blank hfield.left, ← List.cons_append,
      Text.trim_append_blanks hfield.right, Text.trim_eq_self_iff.2 ⟨?_, ?_⟩]
    · simp only [isName_iff.2 hfield.name, ↓reduceIte]
    · rintro c ⟨⟩
      decide
    · intro c hc
      obtain rfl | hc := List.mem_cons.1 (List.mem_of_mem_getLast? hc)
      · decide
      · exact isBlank_of_isWordChar (hfield.name.isWordChar hc)

/-! ### Layouts -/

/-- A text and the reference after it. -/
@[ext] structure Part where
  text : List Char
  left : List Char
  name : List Char
  right : List Char

namespace Part

/-- What stands between the braces. -/
def action (p : Part) : List Char := p.left ++ '.' :: (p.name ++ p.right)

def source (p : Part) : List Char := p.text ++ '\x7b' :: '\x7b' :: (p.action ++ ['\x7d', '\x7d'])

def pieces (p : Part) : List Piece := [.text p.text, .reference p.name]

def expand (vars : Variables) (p : Part) : List Char :=
  p.text ++ ((Entries.get? (.ofList p.name) vars).getD "").toList

theorem source_append (p : Part) (rest : List Char) :
    p.source ++ rest =
      p.text ++ '\x7b' :: '\x7b' :: (p.action ++ '\x7d' :: '\x7d' :: rest) := by
  simp [source]

structure IsWellFormed (p : Part) : Prop where
  text : BeforePair '\x7b' p.text
  action : BeforePair '\x7d' p.action
  field : IsField p.left p.name p.right

end Part

/-- Texts with references between them. -/
structure Layout where
  parts : List Part
  last : List Char

namespace Layout

def source (l : Layout) : List Char := l.parts.flatMap Part.source ++ l.last

/-- The texts with values in the place of the references. -/
def expand (vars : Variables) (l : Layout) : List Char := l.parts.flatMap (·.expand vars) ++ l.last

structure IsWellFormed (l : Layout) : Prop where
  parts : ∀ p ∈ l.parts, p.IsWellFormed
  last : ¬ ['\x7b', '\x7b'] <:+: l.last

end Layout

/-- Why two opening braces with `rest` after them begin no reference. -/
inductive Fault.Arises : Fault → List Char → Prop
  | unclosed {rest : List Char} (noPair : ¬ ['\x7d', '\x7d'] <:+: rest) : Arises .unclosed rest
  | unsupported {action rest : List Char} (before : BeforePair '\x7d' action)
      (noField : ∀ left name right, IsField left name right →
        action ≠ left ++ '.' :: (name ++ right)) :
      Arises (.unsupported action) (action ++ '\x7d' :: '\x7d' :: rest)

theorem pieces_of_noPair {s : List Char} (h : ¬ ['\x7b', '\x7b'] <:+: s) :
    pieces s = .ok [.text s] := by
  rw [pieces]
  split
  · rfl
  · rename_i hs
    rw [splitAtPair_eq_none_iff.2 h] at hs
    cases hs

section

variable {s before t action rest : List Char}

theorem pieces_of_unclosed (hs : splitAtPair '\x7b' s = some (before, t))
    (ht : splitAtPair '\x7d' t = none) : pieces s = .error .unclosed := by
  rw [pieces]
  split
  · simp_all
  · rename_i hs'
    rw [hs] at hs'
    cases hs'
    split
    · rfl
    · simp_all

theorem pieces_of_action (hs : splitAtPair '\x7b' s = some (before, t))
    (ht : splitAtPair '\x7d' t = some (action, rest)) :
    pieces s = match fieldName? action with
      | none => .error (.unsupported action)
      | some name => (pieces rest).map ([.text before, .reference name] ++ ·) := by
  rw [pieces]
  split
  · simp_all
  · rename_i hs'
    rw [hs] at hs'
    cases hs'
    split
    · simp_all
    · rename_i ht'
      rw [ht] at ht'
      cases ht'
      rfl

end

/-- A reference is read for itself, whatever comes after it. -/
theorem pieces_part {p : Part} (h : p.IsWellFormed) (rest : List Char) :
    pieces (p.source ++ rest) = (pieces rest).map (p.pieces ++ ·) := by
  have hname : fieldName? p.action = some p.name :=
    fieldName?_eq_some_iff.2 ⟨p.left, p.right, h.field, rfl⟩
  rw [Part.source_append,
    pieces_of_action (splitAtPair_append h.text _) (splitAtPair_append h.action rest), hname]
  rfl

theorem pieces_parts {ps : List Part} (h : ∀ p ∈ ps, p.IsWellFormed) (rest : List Char) :
    pieces (ps.flatMap Part.source ++ rest) = (pieces rest).map (ps.flatMap Part.pieces ++ ·) := by
  induction ps with
  | nil => cases hrest : pieces rest <;> simp [Except.map, hrest]
  | cons p ps ih =>
    obtain ⟨hp, hps⟩ := List.forall_mem_cons.1 h
    rw [List.flatMap_cons, List.append_assoc, pieces_part hp, ih hps]
    cases pieces rest <;> simp [Except.map]

theorem pieces_of_arises {text rest : List Char} {fault : Fault} (htext : BeforePair '\x7b' text)
    (h : fault.Arises rest) : pieces (text ++ '\x7b' :: '\x7b' :: rest) = .error fault := by
  cases h with
  | unclosed noPair =>
    exact pieces_of_unclosed (splitAtPair_append htext _) (splitAtPair_eq_none_iff.2 noPair)
  | @unsupported action rest before noField =>
    have hfield : fieldName? action = none := by
      cases hname : fieldName? action with
      | none => rfl
      | some name =>
        obtain ⟨left, right, hfield, haction⟩ := fieldName?_eq_some_iff.1 hname
        exact absurd haction (noField left name right hfield)
    rw [pieces_of_action (splitAtPair_append htext _) (splitAtPair_append before rest), hfield]

/-- Behind its references a template ends, or it goes on with braces that begin none. -/
theorem exists_layout_or_fault (s : List Char) :
    (∃ l : Layout, l.IsWellFormed ∧ l.source = s) ∨
      ∃ (ps : List Part) (text rest : List Char) (fault : Fault),
        (∀ p ∈ ps, p.IsWellFormed) ∧ BeforePair '\x7b' text ∧
        ps.flatMap Part.source ++ (text ++ '\x7b' :: '\x7b' :: rest) = s ∧ fault.Arises rest := by
  fun_induction pieces s with
  | case1 s hs => exact .inl ⟨⟨[], s⟩, ⟨by simp, splitAtPair_eq_none_iff.1 hs⟩, rfl⟩
  | case2 s before t hs ht =>
    obtain ⟨rfl, hbefore⟩ := splitAtPair_eq_some_iff.1 hs
    exact .inr ⟨[], before, t, _, by simp, hbefore, rfl,
      .unclosed (splitAtPair_eq_none_iff.1 ht)⟩
  | case3 s before t hs action rest ht hfield =>
    obtain ⟨rfl, hbefore⟩ := splitAtPair_eq_some_iff.1 hs
    obtain ⟨rfl, haction⟩ := splitAtPair_eq_some_iff.1 ht
    refine .inr ⟨[], before, _, _, by simp, hbefore, rfl, .unsupported haction ?_⟩
    intro left name right hname haction
    rw [fieldName?_eq_some_iff.2 ⟨left, right, hname, haction⟩] at hfield
    cases hfield
  | case4 s before t hs action rest ht name hfield ih =>
    obtain ⟨rfl, hbefore⟩ := splitAtPair_eq_some_iff.1 hs
    obtain ⟨rfl, haction⟩ := splitAtPair_eq_some_iff.1 ht
    obtain ⟨left, right, hname, rfl⟩ := fieldName?_eq_some_iff.1 hfield
    have hpart : Part.IsWellFormed ⟨before, left, name, right⟩ := ⟨hbefore, haction, hname⟩
    have hsource := Part.source_append ⟨before, left, name, right⟩ rest
    rcases ih with ⟨l, hl, rfl⟩ | ⟨ps, text, rest, fault, hps, htext, rfl, hfault⟩
    · refine .inl ⟨⟨⟨before, left, name, right⟩ :: l.parts, l.last⟩,
        ⟨List.forall_mem_cons.2 ⟨hpart, hl.parts⟩, hl.last⟩, ?_⟩
      rw [Layout.source, List.flatMap_cons, List.append_assoc]
      exact hsource
    · refine .inr ⟨⟨before, left, name, right⟩ :: ps, text, rest, fault,
        List.forall_mem_cons.2 ⟨hpart, hps⟩, htext, ?_, hfault⟩
      rw [List.flatMap_cons, List.append_assoc]
      exact hsource

/-! ### There is one layout -/

theorem IsField.unique {left name right left' name' right' : List Char}
    (h : IsField left name right) (h' : IsField left' name' right')
    (heq : left ++ '.' :: (name ++ right) = left' ++ '.' :: (name' ++ right')) :
    left = left' ∧ name = name' ∧ right = right' := by
  have hdot : ∀ s : List Char, ∀ c ∈ ('.' :: s).head?, Text.isBlank c = false := by
    rintro s c ⟨⟩
    decide
  have hleft := congrArg (List.takeWhile Text.isBlank) heq
  rw [Text.takeWhile_append h.left (hdot _), Text.takeWhile_append h'.left (hdot _)] at hleft
  subst hleft
  have hrest := (List.cons.inj (List.append_cancel_left heq)).2
  have hnames : ∀ {n r : List Char}, IsField left n r →
      (n ++ r).takeWhile (fun c => !Text.isBlank c) = n := by
    intro n r hf
    refine Text.takeWhile_append (fun c hc => ?_) fun c hc => ?_
    · rw [isBlank_of_isWordChar (hf.name.isWordChar hc)]
      rfl
    · rw [hf.right c (List.mem_of_mem_head? hc)]
      rfl
  have hname := congrArg (List.takeWhile fun c => !Text.isBlank c) hrest
  rw [hnames h, hnames h'] at hname
  subst hname
  exact ⟨rfl, rfl, List.append_cancel_left hrest⟩

/-- What a template begins with and goes on with is settled by where braces pair up first. -/
theorem Part.unique {p p' : Part} {rest rest' : List Char} (h : p.IsWellFormed)
    (h' : p'.IsWellFormed) (heq : p.source ++ rest = p'.source ++ rest') :
    p = p' ∧ rest = rest' := by
  rw [source_append, source_append] at heq
  have hopen := splitAtPair_append h.text (p.action ++ '\x7d' :: '\x7d' :: rest)
  rw [heq, splitAtPair_append h'.text] at hopen
  obtain ⟨htext, htail⟩ := Prod.mk.inj (Option.some.inj hopen)
  have hclose := splitAtPair_append h.action rest
  rw [← htail, splitAtPair_append h'.action] at hclose
  obtain ⟨haction, hrest⟩ := Prod.mk.inj (Option.some.inj hclose)
  obtain ⟨hleft, hname, hright⟩ := h.field.unique h'.field haction.symm
  exact ⟨Part.ext htext.symm hleft hname hright, hrest.symm⟩

theorem Part.pair_infix (p : Part) (rest : List Char) :
    ['\x7b', '\x7b'] <:+: p.source ++ rest := by
  rw [source_append]
  exact ⟨p.text, p.action ++ '\x7d' :: '\x7d' :: rest, by simp⟩

theorem Layout.unique {l l' : Layout} (h : l.IsWellFormed) (h' : l'.IsWellFormed)
    (heq : l.source = l'.source) : l = l' := by
  obtain ⟨ps, last⟩ := l
  obtain ⟨ps', last'⟩ := l'
  simp only [source] at heq
  induction ps generalizing ps' with
  | nil =>
    cases ps' with
    | nil => exact congrArg (Layout.mk []) heq
    | cons p' ps' =>
      rw [List.flatMap_nil, List.nil_append, List.flatMap_cons, List.append_assoc] at heq
      exact absurd (heq ▸ p'.pair_infix _) h.last
  | cons p ps ih =>
    cases ps' with
    | nil =>
      rw [List.flatMap_nil, List.nil_append, List.flatMap_cons, List.append_assoc] at heq
      exact absurd (heq ▸ p.pair_infix _) h'.last
    | cons p' ps' =>
      obtain ⟨hp, hps⟩ := List.forall_mem_cons.1 h.parts
      obtain ⟨hp', hps'⟩ := List.forall_mem_cons.1 h'.parts
      rw [List.flatMap_cons, List.append_assoc, List.flatMap_cons, List.append_assoc] at heq
      obtain ⟨rfl, hrest⟩ := Part.unique hp hp' heq
      cases ih ⟨hps, h.last⟩ ps' ⟨hps', h'.last⟩ hrest
      rfl

/-! ### Reading and expanding -/

theorem expand_of_layout (vars : Variables) {template : String} {l : Layout} (h : l.IsWellFormed)
    (hsource : l.source = template.toList) :
    HttpScript.expand vars template = .ok (.ofList (l.expand vars)) := by
  have hpieces : pieces template.toList = .ok (l.parts.flatMap Part.pieces ++ [.text l.last]) := by
    rw [← hsource, Layout.source, pieces_parts h.parts, pieces_of_noPair h.last]
    rfl
  have hparts : ∀ ps : List Part, (ps.flatMap Part.pieces).flatMap (·.expand vars) =
      ps.flatMap (·.expand vars) := by
    intro ps
    rw [List.flatMap_assoc]
    refine List.flatMap_congr fun p _ => ?_
    simp [Part.pieces, Piece.expand, Part.expand, valueOf]
  rw [HttpScript.expand, hpieces]
  dsimp only
  rw [List.flatMap_append, hparts]
  simp [Layout.expand, Piece.expand]

theorem expand_of_arises (vars : Variables) {template : String} {ps : List Part}
    {text rest : List Char} {fault : Fault} (hps : ∀ p ∈ ps, p.IsWellFormed)
    (htext : BeforePair '\x7b' text)
    (hsource : ps.flatMap Part.source ++ (text ++ '\x7b' :: '\x7b' :: rest) = template.toList)
    (h : fault.Arises rest) : HttpScript.expand vars template = .error ⟨template, fault⟩ := by
  rw [HttpScript.expand, ← hsource, pieces_parts hps, pieces_of_arises htext h]
  rfl

/-! ### Messages -/

/-- What an error quotes as an action ends where braces pair up first. -/
theorem beforePair_of_unsupported {s action : List Char}
    (h : pieces s = .error (.unsupported action)) : BeforePair '\x7d' action := by
  fun_induction pieces s with
  | case1 => cases h
  | case2 => cases h
  | case3 s before t hs found rest ht hfield =>
    cases h
    exact (splitAtPair_eq_some_iff.1 ht).2
  | case4 s before t hs found rest ht name hfield ih =>
    cases hrest : pieces rest with
    | error fault =>
      rw [hrest] at h
      cases h
      exact ih hrest
    | ok more => rw [hrest] at h; cases h

theorem pieces_of_expand {vars : Variables} {template : String} {e : Error}
    (h : HttpScript.expand vars template = .error e) :
    e.template = template ∧ pieces template.toList = .error e.fault := by
  rw [HttpScript.expand] at h
  cases hpieces : pieces template.toList with
  | error fault =>
    rw [hpieces] at h
    cases h
    exact ⟨rfl, rfl⟩
  | ok ps => rw [hpieces] at h; cases h

/-- The message of an error tells its template and its cause. -/
theorem eq_of_message {vars vars' : Variables} {template template' : String} {e e' : Error}
    (h : HttpScript.expand vars template = .error e)
    (h' : HttpScript.expand vars' template' = .error e') (hmessage : e.message = e'.message) :
    e = e' := by
  have hread := (pieces_of_expand h).2
  have hread' := (pieces_of_expand h').2
  obtain ⟨t, fault⟩ := e
  obtain ⟨t', fault'⟩ := e'
  have hchars := congrArg String.toList hmessage
  cases fault with
  | unclosed =>
    cases fault' with
    | unclosed =>
      simp only [Error.message, String.toList_append] at hchars
      rw [String.toList_inj.1 (List.append_cancel_left hchars)]
    | unsupported action' => simp [Error.message] at hchars
  | unsupported action =>
    cases fault' with
    | unclosed => simp [Error.message] at hchars
    | unsupported action' =>
      simp only [Error.message, String.toList_append, List.append_assoc, String.toList_ofList]
        at hchars
      -- both texts are cut where braces pair up first behind the action
      have hcut := congrArg (splitAtPair '\x7d') (List.append_cancel_left hchars)
      have hclose : ∀ s : List Char, "\x7d\x7d in template: ".toList ++ s =
          '\x7d' :: '\x7d' :: (" in template: ".toList ++ s) := fun s => rfl
      rw [hclose, hclose, splitAtPair_append (beforePair_of_unsupported hread),
        splitAtPair_append (beforePair_of_unsupported hread')] at hcut
      obtain ⟨rfl, hrest⟩ := Prod.mk.inj (Option.some.inj hcut)
      rw [String.toList_inj.1 (List.append_cancel_left hrest)]

/-- A template expands exactly when it has a layout, which is then its only one, to the texts with
the values in the place of the references. Else it fails at the first pair of opening braces that
begins no reference: it is unclosed when no closing braces pair up after it, and unsupported when
they enclose something else than a field. -/
theorem expand_iff_layout (vars : Variables) (template : String) :
    (∀ s, HttpScript.expand vars template = .ok s ↔
      ∃ l : Layout, l.IsWellFormed ∧ l.source = template.toList ∧ s.toList = l.expand vars) ∧
    (∀ l l' : Layout, l.IsWellFormed → l'.IsWellFormed → l.source = l'.source → l = l') ∧
    (∀ e, HttpScript.expand vars template = .error e ↔
      e.template = template ∧ ∃ (ps : List Part) (text rest : List Char),
        (∀ p ∈ ps, p.IsWellFormed) ∧ BeforePair '\x7b' text ∧
        ps.flatMap Part.source ++ (text ++ '\x7b' :: '\x7b' :: rest) = template.toList ∧
        e.fault.Arises rest) ∧
    (⟨template, .unclosed⟩ : Error).message = "unclosed action in template: " ++ template ∧
    ∀ action, (⟨template, .unsupported action⟩ : Error).message =
      "unsupported action \x7b\x7b" ++ .ofList action ++ "\x7d\x7d in template: " ++ template := by
  have hread := exists_layout_or_fault template.toList
  refine ⟨fun s => ⟨fun h => ?_, ?_⟩, fun l l' => Layout.unique, fun e => ⟨fun h => ?_, ?_⟩,
    rfl, fun _ => rfl⟩
  · rcases hread with ⟨l, hl, hsource⟩ | ⟨ps, text, rest, fault, hps, htext, hsource, hfault⟩
    · rw [expand_of_layout vars hl hsource] at h
      exact ⟨l, hl, hsource, by rw [← Except.ok.inj h, String.toList_ofList]⟩
    · rw [expand_of_arises vars hps htext hsource hfault] at h
      cases h
  · rintro ⟨l, hl, hsource, hs⟩
    rw [expand_of_layout vars hl hsource, ← hs, String.ofList_toList]
  · rcases hread with ⟨l, hl, hsource⟩ | ⟨ps, text, rest, fault, hps, htext, hsource, hfault⟩
    · rw [expand_of_layout vars hl hsource] at h
      cases h
    · rw [expand_of_arises vars hps htext hsource hfault] at h
      cases h
      exact ⟨rfl, ps, text, rest, hps, htext, hsource, hfault⟩
  · rintro ⟨htemplate, ps, text, rest, hps, htext, hsource, hfault⟩
    rw [expand_of_arises vars hps htext hsource hfault, ← htemplate]

end Template

end HttpScript
