import HttpScript.Proofs.Json.Numbers
import HttpScript.Proofs.Template.Json
import HttpScript.Run.Prepare
import Mathlib

/-!
# The body of a message

Whatever the variables hold, the text that is sent reads as the body of the request with each string
replaced by its rendering. A value can change the contents of a string and nothing else.
-/
namespace HttpScript

/-- A name that holds no reference. -/
def IsPlainName (name : String) : Prop := ¬ ['\x7b', '\x7b'] <:+: name.toList

theorem expandBody_of_prepare {r : Request} {ctx : Context} {out : Outgoing}
    (h : prepare r ctx = .ok out) : expandBody ctx.vars r.body = .ok out.body := by
  rw [prepare] at h
  cases hurl : expand ctx.vars r.url with
  | error e => rw [hurl] at h; cases h
  | ok url =>
    cases hbody : expandBody ctx.vars r.body with
    | error e => rw [hurl, hbody] at h; cases h
    | ok body =>
      cases hheaders : expandHeaders ctx.vars r.headers with
      | error e => rw [hurl, hbody, hheaders] at h; cases h
      | ok headers =>
        rw [hurl, hbody, hheaders] at h
        obtain rfl := Except.ok.inj h
        rfl

/-- The text of the message is the compact text of the expanded body. -/
theorem body_of_prepare {r : Request} {ctx : Context} {out : Outgoing} {body : Json}
    (hbody : r.body = some body) (h : prepare r ctx = .ok out) :
    ∃ v, expandJson ctx.vars body = .ok v ∧ out.body = some (Json.render Json.compact v) := by
  have hexpand := expandBody_of_prepare h
  rw [hbody, expandBody] at hexpand
  cases hv : expandJson ctx.vars body with
  | error e => rw [hv] at hexpand; cases hexpand
  | ok v =>
    rw [hv] at hexpand
    exact ⟨v, rfl, (Except.ok.inj hexpand).symm⟩

/-- A body with short integers can be written whatever the variables hold: they cannot make an
integer longer. -/
theorem Request.isWritable_of_short {r : Request} (h : ∀ v ∈ r.body, v.HasShortIntegers)
    (vars : Variables) : r.isWritable vars = true := by
  unfold Request.isWritable
  split
  · rename_i w _ hexpand
    obtain ⟨v, hbody, hv⟩ := Option.map_eq_some_iff.1 hexpand
    obtain ⟨rfl, -⟩ := expandJson_ok v hv
    have hshort := ((h v hbody).mapStrings (rendering vars)).mono (J := Json.IsShort)
      (G := fun x => false = true → Json.IsFinite x) (fun _ => id) fun _ _ => nofun
    rw [hshort.numberFault?]
    rfl
  · rfl

/-- An integer with too many digits, alone in a body, leaves it without a text. -/
theorem Request.isWritable_of_long {r : Request} {n : Int} (hbody : r.body = some (.int n))
    (hlong : ¬ Json.IsShort n) {vars : Variables} {url : String} (hurl : expand vars r.url = .ok url) :
    r.isWritable vars = false := by
  have hfault : (Json.int n).numberFault? false ≠ none := mt Json.numberFault?_int_eq_none_iff.1 hlong
  unfold Request.isWritable
  rw [hurl, hbody]
  simp only [Option.map_some, expandJson]
  rwa [Option.isNone_eq_false_iff, Option.isSome_iff_ne_none]

/-- The body that is sent means the body that was declared. -/
theorem read_body_of_prepare {r : Request} {ctx : Context} {out : Outgoing} {body : Json}
    (hbody : r.body = some body) (hwhole : Json.IsWhole body) (h : prepare r ctx = .ok out) :
    ∃ text, out.body = some text ∧
      Json.read .accept text.toList = .ok (body.mapStrings (rendering ctx.vars)) ∧
      Render ctx.vars body.strings ∧
      (Json.EveryObject (fun names => names.Nodup ∧ ∀ name ∈ names, IsPlainName name) body →
        (body.mapStrings (rendering ctx.vars)).shape = body.shape) := by
  obtain ⟨v, hv, htext⟩ := body_of_prepare hbody h
  obtain ⟨rfl, hrender⟩ := expandJson_ok body hv
  refine ⟨_, htext, ?_, hrender, fun hnames => ?_⟩
  · rw [Json.render, String.toList_ofList]
    exact Json.read_write Json.compact_isReadable (hwhole.mapStrings _) (hwhole.nodup_mapStrings _)
  · exact Json.shape_mapStrings _ (hnames.mono fun names ⟨hnodup, hplain⟩ =>
      ⟨hnodup, fun name hname => rendering_of_expand (expand_of_plain (hplain name hname) ctx.vars)⟩)

/-- A request that refers to a variable in its body. -/
def greeting : Request where
  method := "POST"
  url := "http://host/users"
  body := some (.object [("name", .string "\x7b\x7b.name\x7d\x7d"), ("ids", .array [.int 7, .null])])

/-- A value that is JSON text itself stays within its string. -/
theorem read_body_of_prepare_greeting :
    ∃ out text, prepare greeting { vars := [("name", "x\",\"admin\":true")] } = .ok out ∧
      out.body = some text ∧
      Json.read .accept text.toList =
        .ok (.object [("name", .string "x\",\"admin\":true"), ("ids", .array [.int 7, .null])]) := by
  have hprepare : prepare greeting { vars := [("name", "x\",\"admin\":true")] } = .ok
      ⟨"POST", "http://host/users",
        [("Content-Type", "application/json"), ("Authorization", "Bearer ")],
        some "\x7b\"name\":\"x\\\",\\\"admin\\\":true\",\"ids\":[7,null]\x7d"⟩ := by cbv
  have hshort : Json.IsShort 7 := by decide
  have hwhole : Json.IsWhole
      (.object [("name", .string "\x7b\x7b.name\x7d\x7d"), ("ids", .array [.int 7, .null])]) := by
    refine .object fun m hm => ?_
    rcases List.mem_cons.1 hm with rfl | hm
    · exact .string _
    · obtain rfl := List.mem_singleton.1 hm
      exact .array (by simp [Json.IsWhole.null, Json.IsWhole.int hshort])
  obtain ⟨text, htext, hread, -⟩ := read_body_of_prepare rfl hwhole hprepare
  refine ⟨_, text, hprepare, htext, hread.trans (congrArg Except.ok ?_)⟩
  cbv

end HttpScript
