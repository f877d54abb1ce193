import HttpScript.Proofs.Json.Numbers

/-!
# Writing what was read

The reader gives values that the writer takes: no object has a name twice, since of several members
with one name the last is kept, and no integer is too long. So without fractions a value that was
read from any text is read again from the text that is written for it.
-/
namespace HttpScript.Json

/-- A value without numbers that are not integers, at any depth. -/
abbrev IsIntegral : Json → Prop := EveryNumber (fun _ => True) fun _ => False

theorem IsIntegral.isWhole {v : Json} (h : IsIntegral v) (hshort : v.HasShortIntegers) :
    IsWhole v := by
  induction h with
  | null => exact .null
  | bool b => exact .bool b
  | int =>
    cases hshort with
    | int hn => exact .int hn
  | float holds => exact holds.elim
  | string s => exact .string s
  | array _ ih =>
    cases hshort with
    | array hitems => exact .array fun v hv => ih v hv (hitems v hv)
  | object _ ih =>
    cases hshort with
    | object hmembers => exact .object fun m hm => ih m hm (hmembers m hm)

section

variable {P : List String → Prop}

theorem everyObject_of_name {p : NonFinitePolicy} {text : List Char} {name : Name} {v : Json}
    (known : (text, name) ∈ names) (admitted : name.read? p = some v) : EveryObject P v := by
  rcases value_of_name known admitted with rfl | ⟨b, rfl⟩ | ⟨which, -, rfl⟩
  · exact .null
  · exact .bool b
  · exact .float _

theorem everyObject_of_number {parts : NumberParts} {v : Json} (value : parts.value = .ok v) :
    EveryObject P v := by
  rcases parts.value_cases value with ⟨n, rfl⟩ | ⟨x, rfl⟩
  · exact .int n
  · exact .float x

end

/-- The reader gives no object with a name twice. -/
theorem Reads.nodup_names {p : NonFinitePolicy} {part : Part} {s r : List Char}
    (h : Reads p part s r) : part.Every (EveryObject List.Nodup) := by
  induction h with
  | string => exact .string _
  | emptyArray => exact .array (by simp)
  | array _ ih => exact .array ih
  | emptyObject => exact .object (by simp) (by simp)
  | object _ ih =>
    refine .object (Entries.nodup_names_collapse _) fun m hm => ih m ?_
    rw [Entries.collapse_eq_merge] at hm
    exact Entries.mem_of_mem_merge hm
  | name known admitted => exact everyObject_of_name known admitted
  | number _ value => exact everyObject_of_number value
  | lastItem _ _ ih => simpa [Part.Every] using ih
  | item _ _ _ ih ihs => exact List.forall_mem_cons.2 ⟨ih, ihs⟩
  | lastMember _ _ _ _ ih => simpa [Part.Every] using ih
  | member _ _ _ _ _ ih ihs => exact List.forall_mem_cons.2 ⟨ih, ihs⟩

/-- A value that was read is read again from its text in any readable style. -/
theorem read_write_of_read {p q : NonFinitePolicy} {style : Style} (hstyle : style.IsReadable)
    {text : List Char} {v : Json} (h : read p text = .ok v) (hv : IsIntegral v) :
    read q (write style 0 v) = .ok v := by
  obtain ⟨r, hreads, -⟩ := read_eq_ok_iff.1 h
  exact read_write hstyle (hv.isWhole hreads.hasShortIntegers) hreads.nodup_names

end HttpScript.Json
