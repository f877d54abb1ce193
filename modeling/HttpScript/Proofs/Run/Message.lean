import HttpScript.Proofs.Except
import HttpScript.Proofs.Run.Prepare
import HttpScript.Proofs.Template.Json

/-!
# A message is the rendering of its request

A request gives a message when all of its templates render: the url, the strings of the body at all
depths, names of members among them, and the values of the headers. Otherwise it gives the error of
one of them.
-/
namespace HttpScript

variable {vars : Variables}

/-- An error is what one of several templates gives. -/
structure Template.Error.IsOf (e : Template.Error) (vars : Variables) (templates : List String) :
    Prop where
  mem : e.template ∈ templates
  fails : expand vars e.template = .error e

namespace Template.Error.IsOf

variable {e : Template.Error} {a b : List String}

theorem mono (h : e.IsOf vars a) (hsub : a ⊆ b) : e.IsOf vars b := ⟨hsub h.mem, h.fails⟩

theorem of_expand {template : String} (h : expand vars template = .error e) :
    e.IsOf vars [template] := by
  obtain rfl := (Template.pieces_of_expand h).1
  exact ⟨List.mem_singleton_self _, h⟩

end Template.Error.IsOf

/-! ### Bodies and headers -/

mutual

theorem expandJson_error {e : Template.Error} : (v : Json) → expandJson vars v = .error e →
    e.IsOf vars v.strings
  | .string s, h => by
    rw [expandJson, map_eq_error_iff] at h
    exact .of_expand h
  | .array vs, h => by
    rw [expandJson, map_eq_error_iff] at h
    exact expandItems_error vs h
  | .object ms, h => by
    rw [expandJson, map_eq_error_iff] at h
    exact expandMembers_error ms h
  | .null, h | .bool _, h | .int _, h | .float _, h => nomatch h

theorem expandItems_error {e : Template.Error} : (vs : List Json) →
    expandItems vars vs = .error e → e.IsOf vars (Json.itemStrings vs)
  | [], h => nomatch h
  | v :: vs, h => by
    rw [Json.itemStrings]
    obtain hv | ⟨w, -, hrest⟩ := bind_eq_error_iff.1 h
    · exact (expandJson_error v hv).mono (List.subset_append_left _ _)
    · have hvs := expandItems_error vs (eq_error_of_bind_pure hrest)
      exact hvs.mono (List.subset_append_right _ _)

theorem expandMembers_error {e : Template.Error} : (ms : List (String × Json)) →
    expandMembers vars ms = .error e → e.IsOf vars (Json.memberStrings ms)
  | [], h => nomatch h
  | (k, v) :: ms, h => by
    rw [Json.memberStrings]
    obtain hv | ⟨w, -, hrest⟩ := bind_eq_error_iff.1 h
    · exact (expandJson_error v hv).mono
        (List.subset_cons_of_subset k (List.subset_append_left _ _))
    · obtain hk | ⟨k', -, hrest⟩ := bind_eq_error_iff.1 hrest
      · exact (Template.Error.IsOf.of_expand hk).mono (by simp)
      · have hms := expandMembers_error ms (eq_error_of_bind_pure hrest)
        exact hms.mono (List.subset_cons_of_subset k (List.subset_append_right _ _))

end

theorem expandBody_error {e : Template.Error} {body : Option Json}
    (h : expandBody vars body = .error e) : e.IsOf vars ((body.map Json.strings).getD []) := by
  cases body with
  | none => cases h
  | some v =>
    rw [expandBody, map_eq_error_iff] at h
    exact expandJson_error v h

theorem render_of_expandBody {body : Option Json} {text : Option String}
    (h : expandBody vars body = .ok text) : Render vars ((body.map Json.strings).getD []) := by
  cases body with
  | none => exact fun s hs => nomatch hs
  | some v =>
    rw [expandBody] at h
    cases hv : expandJson vars v with
    | error e => rw [hv] at h; cases h
    | ok w => exact (expandJson_ok v hv).2

theorem expandHeaders_cons_ok {f : Field} {fields : List Field} {headers : List Header}
    (h : expandHeaders vars (f :: fields) = .ok headers) :
    ∃ value rest, expand vars f.value = .ok value ∧ expandHeaders vars fields = .ok rest ∧
      headers = (f.name, value) :: rest := by
  obtain ⟨value, hvalue, hrest⟩ := bind_eq_ok_iff.1 h
  obtain ⟨rest, hfields, heq⟩ := bind_eq_ok_iff.1 hrest
  exact ⟨value, rest, hvalue, hfields, (Except.ok.inj heq).symm⟩

/-- The first value that does not render is reported. -/
theorem expandHeaders_cons_error_iff {e : Template.Error} {f : Field} {fields : List Field} :
    expandHeaders vars (f :: fields) = .error e ↔ expand vars f.value = .error e ∨
      ∃ value, expand vars f.value = .ok value ∧ expandHeaders vars fields = .error e := by
  rw [expandHeaders, bind_eq_error_iff]
  refine or_congr_right (exists_congr fun value => and_congr_right fun _ => ?_)
  exact bind_pure_eq_error_iff

theorem expandHeaders_error {e : Template.Error} {fields : List Field}
    (h : expandHeaders vars fields = .error e) : e.IsOf vars (fields.map (·.value)) := by
  induction fields with
  | nil => cases h
  | cons f fields ih =>
    rw [List.map_cons]
    obtain hvalue | ⟨value, -, hfields⟩ := expandHeaders_cons_error_iff.1 h
    · exact (Template.Error.IsOf.of_expand hvalue).mono (by simp)
    · exact (ih hfields).mono (List.subset_cons_self _ _)

theorem expandHeaders_ok {fields : List Field} {headers : List Header}
    (h : expandHeaders vars fields = .ok headers) :
    headers = fields.map (fun f => (f.name, rendering vars f.value)) ∧
      Render vars (fields.map (·.value)) := by
  induction fields generalizing headers with
  | nil =>
    obtain rfl := Except.ok.inj h
    exact ⟨rfl, fun s hs => nomatch hs⟩
  | cons f fields ih =>
    obtain ⟨value, rest, hvalue, hfields, rfl⟩ := expandHeaders_cons_ok h
    obtain ⟨rfl, hrender⟩ := ih hfields
    rw [List.map_cons, List.map_cons, rendering_of_expand hvalue]
    exact ⟨rfl, render_append (render_singleton hvalue) hrender⟩

/-! ### Messages -/

variable {r : Request} {ctx : Context}

theorem prepare_eq_ok_iff {m : Outgoing} :
    prepare r ctx = .ok m ↔ ∃ url body headers, expand ctx.vars r.url = .ok url ∧
      expandBody ctx.vars r.body = .ok body ∧ expandHeaders ctx.vars r.headers = .ok headers ∧
      m = ⟨r.method, url, defaultHeaders ctx.token ++ headers, body⟩ := by
  constructor
  · intro h
    obtain ⟨url, hurl, h⟩ := bind_eq_ok_iff.1 h
    obtain ⟨body, hbody, h⟩ := bind_eq_ok_iff.1 h
    obtain ⟨headers, hheaders, h⟩ := bind_eq_ok_iff.1 h
    exact ⟨url, body, headers, hurl, hbody, hheaders, (Except.ok.inj h).symm⟩
  · rintro ⟨url, body, headers, hurl, hbody, hheaders, rfl⟩
    rw [prepare, hurl, hbody, hheaders]
    rfl

/-- The error of a request is that of its url, else of its body, else of its headers. -/
theorem prepare_eq_error_iff {e : Template.Error} :
    prepare r ctx = .error e ↔ expand ctx.vars r.url = .error e ∨
      ∃ url, expand ctx.vars r.url = .ok url ∧ (expandBody ctx.vars r.body = .error e ∨
        ∃ body, expandBody ctx.vars r.body = .ok body ∧
          expandHeaders ctx.vars r.headers = .error e) := by
  rw [prepare, bind_eq_error_iff]
  refine or_congr_right (exists_congr fun url => and_congr_right fun _ => ?_)
  rw [bind_eq_error_iff]
  refine or_congr_right (exists_congr fun body => and_congr_right fun _ => ?_)
  exact bind_pure_eq_error_iff

theorem isOf_of_prepare {e : Template.Error} (h : prepare r ctx = .error e) :
    e.IsOf ctx.vars r.templates := by
  have hafter : ∀ {a : List String}, a ⊆ (r.body.map Json.strings).getD [] ++
      r.headers.map (·.value) → a ⊆ r.templates := fun hsub => List.subset_cons_of_subset _ hsub
  obtain hurl | ⟨url, -, hbody | ⟨body, -, hheaders⟩⟩ := prepare_eq_error_iff.1 h
  · exact (Template.Error.IsOf.of_expand hurl).mono (by simp [Request.templates])
  · exact (expandBody_error hbody).mono (hafter (List.subset_append_left _ _))
  · exact (expandHeaders_error hheaders).mono (hafter (List.subset_append_right _ _))

theorem render_of_prepare {m : Outgoing} (h : prepare r ctx = .ok m) :
    Render ctx.vars r.templates := by
  obtain ⟨url, body, headers, hurl, hbody, hheaders, -⟩ := prepare_eq_ok_iff.1 h
  exact render_append (render_singleton hurl)
    (render_append (render_of_expandBody hbody) (expandHeaders_ok hheaders).2)

/-- The headers of a message are the usual ones, and then those of the request. -/
theorem headers_of_prepare {m : Outgoing} (h : prepare r ctx = .ok m) :
    m.headers = defaultHeaders ctx.token ++
      r.headers.map fun f => (f.name, rendering ctx.vars f.value) := by
  obtain ⟨url, body, headers, -, -, hheaders, rfl⟩ := prepare_eq_ok_iff.1 h
  rw [(expandHeaders_ok hheaders).1]

/-- A request has an error exactly when one of its templates does not render. -/
theorem exists_prepare_error_iff :
    (∃ e, prepare r ctx = .error e) ↔
      ∃ template ∈ r.templates, ∃ e, expand ctx.vars template = .error e := by
  constructor
  · rintro ⟨e, he⟩
    have hof := isOf_of_prepare he
    exact ⟨e.template, hof.mem, e, hof.fails⟩
  · rintro ⟨template, hmem, e, he⟩
    cases hprepare : prepare r ctx with
    | error e' => exact ⟨e', rfl⟩
    | ok m =>
      have hok := render_of_prepare hprepare template hmem
      rw [he] at hok
      cases hok

end HttpScript
