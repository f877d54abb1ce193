import HttpScript.Proofs.Except
import HttpScript.Proofs.Text.LineEnds
import HttpScript.Proofs.Text.Utf8
import HttpScript.Script.Load

/-!
# Scripts from files and from texts

A line is read without the carriage returns at its end, so it makes no difference with what its line
break is written, nor whether a file or a text holds it. A file that is not a text gives no script,
and for no other reason is a file not loaded.
-/
namespace HttpScript

/-- A file is not loaded: it is not there or is no text. -/
def LoadFault.IsLoadError : LoadFault → Prop
  | .notFound | .undecodable _ => True
  | .script _ => False

theorem numberLines_dropRightWhile (n : Nat) (ls : List (List Char)) :
    numberLines n (ls.map (Text.dropRightWhile (· == '\r'))) = numberLines n ls := by
  induction ls generalizing n with
  | nil => rfl
  | cons l ls ih =>
    have hl := List.rdropWhile_idempotent (fun c : Char => c == '\r') l
    rw [List.map_cons, numberLines, numberLines, ih]
    simp only [Text.dropRightWhile_eq, hl]

/-- A script reads the same without the carriage returns at the ends of its lines. -/
theorem readScript_dropReturns (text : List Char) :
    readScript (Text.dropReturns text) = readScript text := by
  rw [readScript, Text.splitOn_dropReturns, numberLines_dropRightWhile]
  rfl

theorem loadScript_encode (text : List Char) :
    loadScript (.file (Text.Utf8.encode text)) =
      (readScript (Text.unifyLineEnds text)).mapError .script := by
  rw [loadScript, Text.Utf8.decode_eq_ok_iff.2 rfl]

/-- Of a file that is there, loading fails exactly where decoding does. -/
theorem exists_isLoadError_iff {bytes : List UInt8} :
    (∃ fault, loadScript (.file bytes) = .error fault ∧ fault.IsLoadError) ↔
      ∃ fault, Text.Utf8.decode bytes = .error fault := by
  constructor
  · rintro ⟨fault, hload, hkind⟩
    rw [loadScript] at hload
    cases hdecode : Text.Utf8.decode bytes with
    | error why => exact ⟨why, rfl⟩
    | ok text =>
      simp only [hdecode] at hload
      obtain ⟨why, -, rfl⟩ := mapError_eq_error_iff.1 hload
      exact hkind.elim
  · rintro ⟨why, hdecode⟩
    exact ⟨.undecodable why, by rw [loadScript, hdecode], trivial⟩

/-- Where carriage returns stand only before line feeds, a script gives the same requests, or is
refused for the same reason at the same place, from a file, from its text, and from the text with
plain line feeds. A file that is there is not loaded exactly when its bytes are no text. -/
theorem loadScript_alike :
    (∀ text, Text.ReturnsEndLines text →
      loadScript (.file (Text.Utf8.encode text)) = (readScript text).mapError .script ∧
      readScript (Text.joinLineEnds text) = readScript text) ∧
    ∀ bytes, (∃ fault, loadScript (.file bytes) = .error fault ∧ fault.IsLoadError) ↔
      ¬ Text.Utf8.WellFormed bytes := by
  refine ⟨fun text hreturns => ⟨?_, ?_⟩, fun bytes => ?_⟩
  · rw [loadScript_encode, Text.unifyLineEnds_eq hreturns, readScript_dropReturns]
  · rw [Text.joinLineEnds_eq hreturns, readScript_dropReturns]
  · rw [exists_isLoadError_iff, Text.Utf8.exists_decode_error_iff]

/-- A body with an error, and a carriage return at the end of each line. -/
def returnsScript : List Char := "GET /x\r\n[1,\r\n2;\r\n]\r\n".toList

theorem loadScript_alike_returnsScript :
    loadScript (.file (Text.Utf8.encode returnsScript)) =
      .error (.script (.syntaxError ⟨.malformedBody .expectingComma, 3, 2, "2;".toList⟩)) ∧
    readScript (Text.joinLineEnds returnsScript) =
      .error (.syntaxError ⟨.malformedBody .expectingComma, 3, 2, "2;".toList⟩) ∧
    ¬ Text.Utf8.WellFormed [0xC3, 0x28] := by
  obtain ⟨htext, hbytes⟩ := loadScript_alike
  obtain ⟨hfile, hjoined⟩ := htext returnsScript (by decide +kernel)
  have hread : readScript returnsScript =
      .error (.syntaxError ⟨.malformedBody .expectingComma, 3, 2, "2;".toList⟩) := by cbv
  rw [hfile, hjoined, hread]
  exact ⟨rfl, rfl, (hbytes _).1 ⟨.undecodable ⟨0, 1, 0xC3, .continuationByte⟩, by cbv, trivial⟩⟩

end HttpScript
