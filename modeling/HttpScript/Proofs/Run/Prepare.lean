import HttpScript.Proofs.Json.Strings
import HttpScript.Proofs.Template.Grammar
import HttpScript.Run.Prepare
import Mathlib

/-!
# A message depends on the variables that it refers to

Which template does not read is settled before any variable is looked up: a request is refused in
all contexts or in none. Its message is told by the token and by the variables whose names stand in
its templates; how the variables are stored, and what others there are, makes no difference.
-/
namespace HttpScript

/-! ### Names in a template -/

namespace Template

/-- Somewhere in a template two opening braces, a dot, the name and two closing braces follow each
other, with nothing but blanks between the braces and what they enclose. -/
def RefersTo (template name : List Char) : Prop :=
  isName name = true ∧ ∃ left right, (∀ c ∈ left, Text.isBlank c = true) ∧
    (∀ c ∈ right, Text.isBlank c = true) ∧
    '\x7b' :: '\x7b' :: (left ++ '.' :: name ++ right ++ ['\x7d', '\x7d']) <:+: template

theorem refersTo_of_fieldName? {action name : List Char} (h : fieldName? action = some name) :
    RefersTo ('\x7b' :: '\x7b' :: (action ++ ['\x7d', '\x7d'])) name := by
  obtain ⟨left, right, hfield, rfl⟩ := fieldName?_eq_some_iff.1 h
  refine ⟨isName_iff.2 hfield.name, left, right, hfield.left, hfield.right, ?_⟩
  rw [List.append_assoc left, List.cons_append]

theorem RefersTo.mono {template template' name : List Char} (h : RefersTo template name)
    (hsub : template <:+: template') : RefersTo template' name := by
  obtain ⟨hname, left, right, hleft, hright, hin⟩ := h
  exact ⟨hname, left, right, hleft, hright, hin.trans hsub⟩

theorem RefersTo.name_infix {template name : List Char} (h : RefersTo template name) :
    name <:+: template := by
  obtain ⟨-, left, right, -, -, hin⟩ := h
  refine List.IsInfix.trans ⟨'\x7b' :: '\x7b' :: (left ++ ['.']), right ++ ['\x7d', '\x7d'], ?_⟩ hin
  simp

/-- Each reference that a template is read as stands in it. -/
theorem refersTo_of_mem_pieces {template name : List Char} {ps : List Piece}
    (h : pieces template = .ok ps) (hmem : .reference name ∈ ps) : RefersTo template name := by
  fun_induction pieces template generalizing ps with
  | case1 s _ =>
    obtain rfl := Except.ok.inj h
    simp at hmem
  | case2 | case3 => cases h
  | case4 s before t hs action rest ht field hfield ih =>
    have hs' := (splitAtPair_eq_some_iff.1 hs).1
    have ht' := (splitAtPair_eq_some_iff.1 ht).1
    cases hmore : pieces rest with
    | error fault => rw [hmore] at h; cases h
    | ok more =>
      rw [hmore] at h
      obtain rfl := Except.ok.inj h
      simp only [List.mem_cons, reduceCtorEq, Piece.reference.injEq, false_or] at hmem
      rcases hmem with rfl | hmem
      · refine (refersTo_of_fieldName? hfield).mono ⟨before, rest, ?_⟩
        rw [hs', ht']
        simp
      · refine (ih hmore hmem).mono (List.IsSuffix.isInfix ⟨before ++ ['\x7b', '\x7b'] ++
          action ++ ['\x7d', '\x7d'], ?_⟩)
        rw [hs', ht']
        simp

end Template

/-! ### Equal messages -/

/-- All variables that templates refer to are set alike. -/
def AgreeOn (templates : List String) (vars vars' : Variables) : Prop :=
  ∀ template ∈ templates, ∀ name, Template.RefersTo template.toList name →
    Entries.get? (.ofList name) vars = Entries.get? (.ofList name) vars'

/-- The same variables are set, to the same values. -/
def SameVariables (vars vars' : Variables) : Prop :=
  ∀ name, Entries.get? name vars = Entries.get? name vars'

/-- The templates of a request. -/
def Request.templates (r : Request) : List String :=
  r.url :: ((r.body.map Json.strings).getD [] ++ r.headers.map (·.value))

variable {vars vars' : Variables}

theorem SameVariables.agreeOn (h : SameVariables vars vars') (templates : List String) :
    AgreeOn templates vars vars' := fun _ _ name _ => h (.ofList name)

theorem AgreeOn.left {a b : List String} (h : AgreeOn (a ++ b) vars vars') :
    AgreeOn a vars vars' := fun template hmem => h template (List.mem_append_left b hmem)

theorem AgreeOn.right {a b : List String} (h : AgreeOn (a ++ b) vars vars') :
    AgreeOn b vars vars' := fun template hmem => h template (List.mem_append_right a hmem)

theorem AgreeOn.head {template : String} {rest : List String}
    (h : AgreeOn (template :: rest) vars vars') : AgreeOn [template] vars vars' := h.left (b := rest)

theorem AgreeOn.tail {template : String} {rest : List String}
    (h : AgreeOn (template :: rest) vars vars') : AgreeOn rest vars vars' :=
  h.right (a := [template])

theorem expand_congr {template : String} (h : AgreeOn [template] vars vars') :
    expand vars template = expand vars' template := by
  rw [expand, expand]
  cases hpieces : Template.pieces template.toList with
  | error fault => rfl
  | ok ps =>
    have hpiece : ∀ p ∈ ps, p.expand vars = p.expand vars' := by
      intro p hp
      cases p with
      | text s => rfl
      | reference name =>
        rw [Template.Piece.expand, Template.Piece.expand, Template.valueOf, Template.valueOf,
          h template (List.mem_singleton_self _) name (Template.refersTo_of_mem_pieces hpieces hp)]
    simp only [List.flatMap_congr hpiece]

mutual

theorem expandJson_congr : (v : Json) → AgreeOn v.strings vars vars' →
    expandJson vars v = expandJson vars' v
  | .string s, h => by rw [expandJson, expandJson, expand_congr h]
  | .array items, h => by rw [expandJson, expandJson, expandItems_congr items h]
  | .object members, h => by rw [expandJson, expandJson, expandMembers_congr members h]
  | .null, _ | .bool _, _ | .int _, _ | .float _, _ => rfl

theorem expandItems_congr : (vs : List Json) → AgreeOn (Json.itemStrings vs) vars vars' →
    expandItems vars vs = expandItems vars' vs
  | [], _ => rfl
  | v :: vs, h => by
    rw [expandItems, expandItems, expandJson_congr v h.left, expandItems_congr vs h.right]

theorem expandMembers_congr : (ms : List (String × Json)) →
    AgreeOn (Json.memberStrings ms) vars vars' → expandMembers vars ms = expandMembers vars' ms
  | [], _ => rfl
  | (k, v) :: ms, h => by
    rw [expandMembers, expandMembers, expandJson_congr v h.tail.left, expand_congr h.head,
      expandMembers_congr ms h.tail.right]

end

theorem expandBody_congr (body : Option Json)
    (h : AgreeOn ((body.map Json.strings).getD []) vars vars') :
    expandBody vars body = expandBody vars' body := by
  cases body with
  | none => rfl
  | some body => rw [expandBody, expandBody, expandJson_congr body h]

theorem expandHeaders_congr (fields : List Field)
    (h : AgreeOn (fields.map (·.value)) vars vars') :
    expandHeaders vars fields = expandHeaders vars' fields := by
  induction fields with
  | nil => rfl
  | cons f fields ih => rw [expandHeaders, expandHeaders, expand_congr h.head, ih h.tail]

theorem prepare_congr_of_agreeOn {ctx ctx' : Context} (htoken : ctx.token = ctx'.token)
    (r : Request) (h : AgreeOn r.templates ctx.vars ctx'.vars) :
    prepare r ctx = prepare r ctx' := by
  rw [prepare, prepare, htoken, expand_congr h.head, expandBody_congr r.body h.tail.left,
    expandHeaders_congr r.headers h.tail.right]

theorem prepare_congr {ctx ctx' : Context} (h : SameVariables ctx.vars ctx'.vars)
    (htoken : ctx.token = ctx'.token) (r : Request) : prepare r ctx = prepare r ctx' :=
  prepare_congr_of_agreeOn htoken r (h.agreeOn _)

/-! ### Equal faults -/

/-- Two results have the same fault, or both have none. -/
def SameFault {ε α β : Type} (x : Except ε α) (y : Except ε β) : Prop :=
  ∀ e, x = .error e ↔ y = .error e

namespace SameFault

variable {ε α β γ δ : Type}

theorem ok (a : α) (b : β) : SameFault (.ok a : Except ε α) (.ok b : Except ε β) := by
  intro e
  simp

theorem error (e : ε) : SameFault (.error e : Except ε α) (.error e : Except ε β) := by
  intro e'
  simp

/-- A fault of a sequence is the fault of its first part that has one. -/
theorem bind {x : Except ε α} {y : Except ε β} {f : α → Except ε γ} {g : β → Except ε δ}
    (h : SameFault x y) (hrest : ∀ a b, SameFault (f a) (g b)) :
    SameFault (x >>= f) (y >>= g) := by
  cases x with
  | error e =>
    obtain rfl : y = .error e := (h e).1 rfl
    exact error e
  | ok a =>
    cases y with
    | error e => cases (h e).2 rfl
    | ok b => exact hrest a b

theorem map {x : Except ε α} {y : Except ε β} (f : α → γ) (g : β → δ) (h : SameFault x y) :
    SameFault (x.map f) (y.map g) :=
  h.bind (f := fun a => .ok (f a)) (g := fun b => .ok (g b)) fun _ _ => ok _ _

end SameFault

variable (vars vars')

/-- Whether a template reads is told by its text. -/
theorem expand_sameFault (template : String) :
    SameFault (expand vars template) (expand vars' template) := by
  rw [expand, expand]
  cases Template.pieces template.toList with
  | error fault => exact .error _
  | ok ps => exact .ok _ _

mutual

theorem expandJson_sameFault : (v : Json) → SameFault (expandJson vars v) (expandJson vars' v)
  | .string s => (expand_sameFault vars vars' s).map _ _
  | .array items => (expandItems_sameFault items).map _ _
  | .object members => (expandMembers_sameFault members).map _ _
  | .null | .bool _ | .int _ | .float _ => .ok _ _

theorem expandItems_sameFault : (vs : List Json) →
    SameFault (expandItems vars vs) (expandItems vars' vs)
  | [] => .ok _ _
  | v :: vs => (expandJson_sameFault v).bind fun _ _ =>
    (expandItems_sameFault vs).bind fun _ _ => .ok _ _

theorem expandMembers_sameFault : (ms : List (String × Json)) →
    SameFault (expandMembers vars ms) (expandMembers vars' ms)
  | [] => .ok _ _
  | (k, v) :: ms => (expandJson_sameFault v).bind fun _ _ =>
    (expand_sameFault vars vars' k).bind fun _ _ =>
      (expandMembers_sameFault ms).bind fun _ _ => .ok _ _

end

theorem expandBody_sameFault (body : Option Json) :
    SameFault (expandBody vars body) (expandBody vars' body) := by
  cases body with
  | none => exact .ok _ _
  | some body => exact (expandJson_sameFault vars vars' body).map _ _

theorem expandHeaders_sameFault (fields : List Field) :
    SameFault (expandHeaders vars fields) (expandHeaders vars' fields) := by
  induction fields with
  | nil => exact .ok _ _
  | cons f fields ih =>
    exact (expand_sameFault vars vars' f.value).bind fun _ _ => ih.bind fun _ _ => .ok _ _

theorem prepare_sameFault (r : Request) (ctx ctx' : Context) :
    SameFault (prepare r ctx) (prepare r ctx') :=
  (expand_sameFault _ _ r.url).bind fun _ _ =>
    (expandBody_sameFault _ _ r.body).bind fun _ _ =>
      (expandHeaders_sameFault _ _ r.headers).bind fun _ _ => .ok _ _

/-- A request that refers to one variable in its url and to another one in its body. -/
def userUpdate : Request where
  method := "PUT"
  url := "http://host/users/\x7b\x7b .id \x7d\x7d"
  body := some (.object [("name", .string "\x7b\x7b.name\x7d\x7d")])

end HttpScript
