import HttpScript.Proofs.Json.Strings
import HttpScript.Proofs.Template.Grammar
import HttpScript.Template.Json

/-!
# Rendered values

A value is rendered by rendering each of its strings, and if one of them does not render, neither
does the value. A string without two opening braces in a row is its own rendering.
-/
namespace HttpScript

/-- The rendering of a template; the template itself where it does not render. -/
def rendering (vars : Variables) (template : String) : String :=
  match expand vars template with
  | .ok s => s
  | .error _ => template

theorem rendering_of_expand {vars : Variables} {template s : String}
    (h : expand vars template = .ok s) : rendering vars template = s := by
  rw [rendering, h]

/-- All strings of a list of strings render. -/
def Render (vars : Variables) (templates : List String) : Prop :=
  ∀ s ∈ templates, expand vars s = .ok (rendering vars s)

theorem render_append {vars : Variables} {a b : List String} (ha : Render vars a)
    (hb : Render vars b) : Render vars (a ++ b) := fun s hs =>
  (List.mem_append.1 hs).elim (ha s) (hb s)

theorem render_singleton {vars : Variables} {s t : String} (h : expand vars s = .ok t) :
    Render vars [s] := by
  intro u hu
  obtain rfl := List.mem_singleton.1 hu
  rw [h, rendering_of_expand h]

mutual

theorem expandJson_ok {vars : Variables} : (v : Json) → {w : Json} → expandJson vars v = .ok w →
    w = v.mapStrings (rendering vars) ∧ Render vars v.strings
  | .string s, w, h => by
    rw [expandJson] at h
    cases hs : expand vars s with
    | error e => rw [hs] at h; cases h
    | ok t =>
      rw [hs] at h
      obtain rfl : Json.string t = w := Except.ok.inj h
      rw [Json.mapStrings, Json.strings, rendering_of_expand hs]
      exact ⟨rfl, render_singleton hs⟩
  | .array vs, w, h => by
    rw [expandJson] at h
    cases hvs : expandItems vars vs with
    | error e => rw [hvs] at h; cases h
    | ok ws =>
      rw [hvs] at h
      obtain rfl : Json.array ws = w := Except.ok.inj h
      obtain ⟨rfl, hrender⟩ := expandItems_ok vs hvs
      rw [Json.mapStrings, Json.strings]
      exact ⟨rfl, hrender⟩
  | .object ms, w, h => by
    rw [expandJson] at h
    cases hms : expandMembers vars ms with
    | error e => rw [hms] at h; cases h
    | ok ns =>
      rw [hms] at h
      obtain rfl : Json.object (Entries.collapse ns) = w := Except.ok.inj h
      obtain ⟨rfl, hrender⟩ := expandMembers_ok ms hms
      rw [Json.mapStrings, Json.strings, Entries.collapse_eq_merge]
      exact ⟨rfl, hrender⟩
  | .null, w, h | .bool _, w, h | .int _, w, h | .float _, w, h => by
    obtain rfl := Except.ok.inj h
    exact ⟨rfl, fun s hs => nomatch hs⟩

theorem expandItems_ok {vars : Variables} : (vs : List Json) → {ws : List Json} →
    expandItems vars vs = .ok ws →
    ws = Json.mapItems (rendering vars) vs ∧ Render vars (Json.itemStrings vs)
  | [], ws, h => by
    obtain rfl := Except.ok.inj h
    exact ⟨rfl, fun s hs => nomatch hs⟩
  | v :: vs, ws, h => by
    rw [expandItems] at h
    cases hv : expandJson vars v with
    | error e => rw [hv] at h; cases h
    | ok w =>
      cases hvs : expandItems vars vs with
      | error e => rw [hv, hvs] at h; cases h
      | ok us =>
        rw [hv, hvs] at h
        obtain rfl := Except.ok.inj h
        obtain ⟨rfl, hrender⟩ := expandJson_ok v hv
        obtain ⟨rfl, hrest⟩ := expandItems_ok vs hvs
        rw [Json.mapItems, Json.itemStrings]
        exact ⟨rfl, render_append hrender hrest⟩

theorem expandMembers_ok {vars : Variables} : (ms : List (String × Json)) →
    {ns : List (String × Json)} → expandMembers vars ms = .ok ns →
    ns = Json.mapMembers (rendering vars) ms ∧ Render vars (Json.memberStrings ms)
  | [], ns, h => by
    obtain rfl := Except.ok.inj h
    exact ⟨rfl, fun s hs => nomatch hs⟩
  | (k, v) :: ms, ns, h => by
    rw [expandMembers] at h
    cases hv : expandJson vars v with
    | error e => rw [hv] at h; cases h
    | ok w =>
      cases hk : expand vars k with
      | error e => rw [hv, hk] at h; cases h
      | ok k' =>
        cases hms : expandMembers vars ms with
        | error e => rw [hv, hk, hms] at h; cases h
        | ok us =>
          rw [hv, hk, hms] at h
          obtain rfl := Except.ok.inj h
          obtain ⟨rfl, hrender⟩ := expandJson_ok v hv
          obtain ⟨rfl, hrest⟩ := expandMembers_ok ms hms
          rw [Json.mapMembers, Json.memberStrings, rendering_of_expand hk]
          exact ⟨rfl, render_append (render_singleton hk) (render_append hrender hrest)⟩

end

/-! ### Strings without references -/

theorem expand_of_plain {template : String}
    (h : ¬ ['\x7b', '\x7b'] <:+: template.toList) (vars : Variables) :
    expand vars template = .ok template := by
  have hpieces := Template.pieces_of_noPair h
  simp [expand, hpieces, Template.Piece.expand]

end HttpScript
