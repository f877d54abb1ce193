import HttpScript.Console
import HttpScript.Proofs.Json.Rereading

/-!
# Bodies on indented lines

Laying out a body keeps what it says: what was JSON reads as the same value, members in their order,
and what was not stays as it is. So a body that was laid out once is not changed again.
-/
namespace HttpScript

theorem Json.indented_isReadable : indented.IsReadable :=
  ⟨⟨[], rfl, by simp⟩, ⟨[' '], rfl, by simp [isSpace]⟩⟩

theorem layOut_of_read {text : String} {v : Json} (h : Json.read .accept text.toList = .ok v) :
    layOut text = Json.render Json.indented v := by
  rw [layOut, h]

/-- A text that is not JSON is left alone. -/
theorem layOut_of_error {text : String} {fault : Json.Fault}
    (h : Json.read .accept text.toList = .error fault) : layOut text = text := by
  rw [layOut, h]

theorem read_layOut {text : String} {v : Json} (h : Json.read .accept text.toList = .ok v)
    (hv : v.IsIntegral) : Json.read .accept (layOut text).toList = .ok v := by
  rw [layOut_of_read h, Json.render, String.toList_ofList]
  exact Json.read_write_of_read Json.indented_isReadable h hv

/-- Both texts spell one value, so they are laid out alike. -/
theorem layOut_layOut {text : String} {v : Json} (h : Json.read .accept text.toList = .ok v)
    (hv : v.IsIntegral) : layOut (layOut text) = layOut text := by
  rw [layOut_of_read (read_layOut h hv), layOut_of_read h]

/-- Laying out preserves a text, and what it gives is laid out. -/
theorem layOut_preserves (text : String) :
    (∀ v, Json.read .accept text.toList = .ok v → v.IsIntegral →
      Json.read .accept (layOut text).toList = .ok v ∧ layOut (layOut text) = layOut text) ∧
    ∀ fault, Json.read .accept text.toList = .error fault →
      layOut text = text ∧ layOut (layOut text) = layOut text := by
  refine ⟨?_, ?_⟩
  · intro v h hv
    exact ⟨read_layOut h hv, layOut_layOut h hv⟩
  · intro fault h
    have htext := layOut_of_error h
    exact ⟨htext, by rw [htext, htext]⟩

/-- Of the two members `b` the last one stays, at the place of the first. -/
theorem layOut_preserves_repeated :
    Json.read .accept (layOut "\x7b\"b\":1,\"a\":[-2],\"b\":\"\\t\"\x7d").toList =
      .ok (.object [("b", .string "\t"), ("a", .array [.int (-2)])]) ∧
    layOut "[1" = "[1" := by
  have hitems : Json.IsIntegral (.array [.int (-2)]) := .array (by simp [Json.EveryNumber.int])
  have hv : Json.IsIntegral (.object [("b", .string "\t"), ("a", .array [.int (-2)])]) :=
    .object (by simp [hitems, Json.EveryNumber.string])
  exact ⟨((layOut_preserves _).1 _ (by cbv) hv).1,
    ((layOut_preserves "[1").2 (.malformed .expectingComma []) (by cbv)).1⟩

end HttpScript
