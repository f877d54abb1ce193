import HttpScript.Proofs.Run.Prepare
import HttpScript.Proofs.Script.Problems

/-!
# Names of captures in templates

A variable can be used in a template when a reference to it stands for its value. That holds of the
identifiers and of no other name: no reference can be written to another name, so what is set under
it makes no difference to a template. The check of a script takes the identifiers, and it also takes
an identifier with a line break behind it, to which no template can refer.
-/
namespace HttpScript

theorem IsIdentifier.not_mem {s : List Char} (h : IsIdentifier s) {c : Char}
    (hc : HttpScript.isWordChar c = false) : c ∉ s := by
  intro hmem
  rw [h.isWordChar hmem] at hc
  cases hc

namespace Template

/-! ### References to a name -/

/-- The template that is a reference to a name. -/
def reference (name : String) : String := "\x7b\x7b." ++ name ++ " \x7d\x7d"

/-- A reference to the name stands for the value that is set under it. -/
def IsUsable (name : String) : Prop :=
  ∀ (vars : Variables) (value : String), Entries.get? name vars = some value →
    expand vars (reference name) = .ok value

theorem beforePair_of_not_mem {mark : Char} {s : List Char} (h : mark ∉ s) :
    BeforePair mark s where
  noPair hpair := h (hpair.subset List.mem_cons_self)
  last hlast := h (List.mem_of_getLast? hlast)

/-- Blanks behind an identifier are none of the name that is referred to. -/
theorem expand_reference_append {name : String} (hname : IsIdentifier name.toList)
    (blanks : String) (hblanks : ∀ c ∈ blanks.toList, Text.isBlank c = true) (vars : Variables) :
    expand vars (reference (name ++ blanks)) = .ok ((Entries.get? name vars).getD "") := by
  have hright : ∀ c ∈ blanks.toList ++ [' '], Text.isBlank c = true := by
    simpa [or_imp, forall_and] using ⟨hblanks, by decide⟩
  have hclose : '\x7d' ∉ blanks.toList ++ [' '] := fun hmem => absurd (hright _ hmem) (by decide)
  let p : Part := ⟨[], [], name.toList, blanks.toList ++ [' ']⟩
  have haction : '\x7d' ∉ p.action := by
    simp only [p, Part.action, List.nil_append, List.mem_cons, List.mem_append (s := name.toList),
      not_or]
    exact ⟨by decide, hname.not_mem (by decide), hclose⟩
  have hp : p.IsWellFormed :=
    ⟨beforePair_nil _, beforePair_of_not_mem haction, ⟨by simp [p], hname, hright⟩⟩
  have hl : Layout.IsWellFormed ⟨[p], []⟩ := ⟨by simpa using hp, by simp⟩
  rw [expand_of_layout vars hl]
  · simp [Layout.expand, Part.expand, p]
  · simp [Layout.source, Part.source, Part.action, reference, p]

theorem expand_reference {name : String} (hname : IsIdentifier name.toList) (vars : Variables) :
    expand vars (reference name) = .ok ((Entries.get? name vars).getD "") := by
  have h := expand_reference_append hname "" (by simp) vars
  rwa [String.append_empty] at h

/-- What is set under a name that is no identifier makes no difference to a template. -/
theorem expand_put_of_not_isIdentifier {name : String} (hname : ¬ IsIdentifier name.toList)
    (vars : Variables) (value template : String) :
    expand (Entries.put name value vars) template = expand vars template := by
  refine expand_congr fun t _ s href => Entries.get?_put_of_ne ?_ value vars
  rintro rfl
  rw [String.toList_ofList] at hname
  exact hname (isName_iff.1 href.1)

/-- Of two values that are set under such a name, one is not what a template expands to. -/
theorem exists_expand_put_ne {name : String} (hname : ¬ IsIdentifier name.toList)
    (vars : Variables) (template : String) :
    ∃ value, expand (Entries.put name value vars) template ≠ .ok value := by
  simp only [expand_put_of_not_isIdentifier hname]
  by_contra! h
  have heq : "" = "a" := Except.ok.inj ((h "").symm.trans (h "a"))
  exact absurd heq (by decide)

theorem isUsable_iff {name : String} : IsUsable name ↔ IsIdentifier name.toList := by
  constructor
  · intro h
    by_contra hname
    obtain ⟨value, hvalue⟩ := exists_expand_put_ne hname [] (reference name)
    exact hvalue (h _ value (Entries.get?_put_self name value []))
  · intro hname vars value hvalue
    rw [expand_reference hname, hvalue, Option.getD_some]

end Template

/-! ### The names that are checked -/

theorem not_isIdentifier_append_break (s : String) : ¬ IsIdentifier (s ++ "\n").toList :=
  fun h => h.not_mem (c := '\n') (by decide) (by simp)

/-- The check takes the identifiers, and each of them with a line break behind it. -/
theorem isCaptureName_iff {name : String} :
    isCaptureName name = true ↔ IsIdentifier name.toList ∨
      ∃ s : String, IsIdentifier s.toList ∧ name = s ++ "\n" := by
  simp only [isCaptureName, Bool.or_eq_true, Bool.and_eq_true, beq_iff_eq, isName_iff,
    List.getLast?_eq_some_iff]
  refine or_congr_right ⟨?_, ?_⟩
  · rintro ⟨⟨s, hs⟩, hname⟩
    rw [hs, List.dropLast_concat] at hname
    refine ⟨.ofList s, by rwa [String.toList_ofList], String.toList_injective ?_⟩
    simpa using hs
  · rintro ⟨s, hs, rfl⟩
    simp [hs]

theorem Request.captureName_mem_flaws_iff {r : Request} {name : String} :
    .captureName name ∈ r.flaws ↔
      (∃ f ∈ r.captures, f.name = name) ∧ isCaptureName name = false := by
  have hbody : ¬ (r.body.bind fun v => (bodyProblem? v).map Flaw.body) =
      some (.captureName name) := by
    cases r.body with
    | none => simp
    | some v => cases h : bodyProblem? v <;> simp [h]
  simp only [flaws, List.mem_append, List.mem_ite_nil_left, List.mem_ite_nil_right,
    List.mem_singleton, reduceCtorEq, and_false, false_or, Option.mem_toList, Option.map_bind,
    Function.comp_def, hbody, List.mem_map, List.mem_filter, Bool.not_eq_true',
    Flaw.captureName.injEq]
  constructor
  · rintro ⟨f, ⟨hf, hname⟩, rfl⟩
    exact ⟨⟨f, hf, rfl⟩, hname⟩
  · rintro ⟨⟨f, hf, rfl⟩, hname⟩
    exact ⟨f, ⟨hf, hname⟩, rfl⟩

theorem isCaptureName_of_problems {requests : List Request} (h : problems requests = [])
    {r : Request} (hr : r ∈ requests) {f : Field} (hf : f ∈ r.captures) :
    isCaptureName f.name = true := by
  rw [← Bool.not_eq_false]
  intro hname
  have hflaw := Request.captureName_mem_flaws_iff.2 ⟨⟨f, hf, rfl⟩, hname⟩
  rw [(problems_eq_nil_iff.1 h).2 r hr] at hflaw
  cases hflaw

theorem not_isIdentifier_of_problems {requests : List Request} {number : Nat} {line : Int}
    {name : String} (h : .step number line (.captureName name) ∈ problems requests) :
    ¬ IsIdentifier name.toList := by
  intro hidentifier
  unfold problems at h
  split at h
  · simp at h
  · obtain ⟨i, r, -, flaw, hflaw, heq⟩ := mem_problemsFrom_iff.1 h
    cases heq
    have hname := (Request.captureName_mem_flaws_iff.1 hflaw).2
    rw [isCaptureName_iff.2 (.inl hidentifier)] at hname
    cases hname

/-- The names of the captures of requests without a problem can be used in templates, except those
that end in a line break: a reference to one of these is a reference to the name before the break.
What is set under a name that is reported is not what a reference to it stands for. -/
theorem usable_of_problems (requests : List Request) :
    (problems requests = [] → ∀ r ∈ requests, ∀ f ∈ r.captures,
      Template.IsUsable f.name ∨ ∃ s : String, f.name = s ++ "\n" ∧ Template.IsUsable s ∧
        ¬ Template.IsUsable f.name ∧ ∀ vars, expand vars (Template.reference f.name) =
          .ok ((Entries.get? s vars).getD "")) ∧
    ∀ (number : Nat) (line : Int) (name : String),
      .step number line (.captureName name) ∈ problems requests → ∀ vars, ∃ value,
        expand (Entries.put name value vars) (Template.reference name) ≠ .ok value := by
  constructor
  · intro hnone r hr f hf
    rcases isCaptureName_iff.1 (isCaptureName_of_problems hnone hr hf) with hname | ⟨s, hs, hname⟩
    · exact .inl (Template.isUsable_iff.2 hname)
    · refine .inr ⟨s, hname, Template.isUsable_iff.2 hs, ?_, ?_⟩
      · rw [Template.isUsable_iff, hname]
        exact not_isIdentifier_append_break s
      · have hbreak : ∀ c ∈ "\n".toList, Text.isBlank c = true := by
          simpa using (by decide : Text.isBlank '\n' = true)
        rw [hname]
        exact Template.expand_reference_append hs _ hbreak
  · intro number line name hmem vars
    exact Template.exists_expand_put_ne (not_isIdentifier_of_problems hmem) vars _

/-- A capture whose name ends in a line break is not reported, and no template can refer to it. -/
theorem not_forall_isUsable_of_problems :
    ¬ ∀ requests : List Request, problems requests = [] → ∀ r ∈ requests, ∀ f ∈ r.captures,
      Template.IsUsable f.name := by
  intro h
  have husable := h [{ method := "GET", url := "/x", captures := [⟨"x\n", "."⟩] }]
    (by decide +kernel) _ List.mem_cons_self _ List.mem_cons_self
  exact not_isIdentifier_append_break "x" (Template.isUsable_iff.1 husable)

end HttpScript
