import HttpScript.Proofs.Json.Writing

/-!
# Values with their strings replaced

Replacing the strings of a value, the names of members among them, leaves everything else as it is.
Members stay in order, and those whose names become equal become one. What remains when the contents
of the strings are left out is the shape of the value.
-/
namespace HttpScript.Json

mutual

/-- Replace every string, at any depth. -/
def mapStrings (f : String → String) : Json → Json
  | .string s => .string (f s)
  | .array vs => .array (mapItems f vs)
  | .object ms => .object (Entries.merge (mapMembers f ms))
  | v => v

def mapItems (f : String → String) : List Json → List Json
  | [] => []
  | v :: vs => mapStrings f v :: mapItems f vs

def mapMembers (f : String → String) : List (String × Json) → List (String × Json)
  | [] => []
  | (k, v) :: ms => (f k, mapStrings f v) :: mapMembers f ms

end

mutual

/-- The strings at all depths. -/
def strings : Json → List String
  | .string s => [s]
  | .array vs => itemStrings vs
  | .object ms => memberStrings ms
  | _ => []

def itemStrings : List Json → List String
  | [] => []
  | v :: vs => strings v ++ itemStrings vs

def memberStrings : List (String × Json) → List String
  | [] => []
  | (k, v) :: ms => k :: (strings v ++ memberStrings ms)

end

mutual

/-- A value without the contents of its strings; the names of members are kept. -/
def shape : Json → Json
  | .string _ => .string ""
  | .array vs => .array (itemShapes vs)
  | .object ms => .object (memberShapes ms)
  | v => v

def itemShapes : List Json → List Json
  | [] => []
  | v :: vs => shape v :: itemShapes vs

def memberShapes : List (String × Json) → List (String × Json)
  | [] => []
  | (k, v) :: ms => (k, shape v) :: memberShapes ms

end

variable (f : String → String)

theorem mapItems_eq (vs : List Json) : mapItems f vs = vs.map (mapStrings f) := by
  induction vs with
  | nil => rfl
  | cons v vs ih => rw [mapItems, ih, List.map_cons]

theorem mapMembers_eq (ms : List (String × Json)) :
    mapMembers f ms = ms.map fun m => (f m.1, mapStrings f m.2) := by
  induction ms with
  | nil => rfl
  | cons m ms ih => rw [mapMembers, ih, List.map_cons]

theorem itemShapes_eq (vs : List Json) : itemShapes vs = vs.map shape := by
  induction vs with
  | nil => rfl
  | cons v vs ih => rw [itemShapes, ih, List.map_cons]

theorem memberShapes_eq (ms : List (String × Json)) :
    memberShapes ms = ms.map fun m => (m.1, shape m.2) := by
  induction ms with
  | nil => rfl
  | cons m ms ih => rw [memberShapes, ih, List.map_cons]

/-- What is merged of members comes from one of them. -/
theorem exists_of_mem_merge {ms : List (String × Json)} {m : String × Json}
    (h : m ∈ Entries.merge (mapMembers f ms)) : ∃ m' ∈ ms, m.2 = mapStrings f m'.2 := by
  have hmem := Entries.mem_of_mem_merge h
  rw [mapMembers_eq] at hmem
  obtain ⟨m', hm', rfl⟩ := List.mem_map.1 hmem
  exact ⟨m', hm', rfl⟩

theorem IsWhole.mapStrings {v : Json} (h : IsWhole v) : IsWhole (mapStrings f v) := by
  induction h with
  | null => exact .null
  | bool b => exact .bool b
  | int short => exact .int short
  | string s => rw [Json.mapStrings]; exact .string _
  | array _ ih =>
    rw [Json.mapStrings, mapItems_eq]
    refine .array fun w hw => ?_
    obtain ⟨v, hv, rfl⟩ := List.mem_map.1 hw
    exact ih v hv
  | object _ ih =>
    rw [Json.mapStrings]
    refine .object fun m hm => ?_
    obtain ⟨m', hm', hvalue⟩ := exists_of_mem_merge f hm
    rw [hvalue]
    exact ih m' hm'

/-- No name stands twice in an object after the strings have been replaced. -/
theorem IsWhole.nodup_mapStrings {v : Json} (h : IsWhole v) :
    EveryObject List.Nodup (Json.mapStrings f v) := by
  induction h with
  | null => exact .null
  | bool b => exact .bool b
  | int => exact .int _
  | string s => rw [Json.mapStrings]; exact .string _
  | array _ ih =>
    rw [Json.mapStrings, mapItems_eq]
    refine .array fun w hw => ?_
    obtain ⟨v, hv, rfl⟩ := List.mem_map.1 hw
    exact ih v hv
  | object _ ih =>
    rw [Json.mapStrings]
    refine .object ?_ fun m hm => ?_
    · rw [← Entries.collapse_eq_merge]
      exact Entries.nodup_names_collapse _
    · obtain ⟨m', hm', hvalue⟩ := exists_of_mem_merge f hm
      rw [hvalue]
      exact ih m' hm'

/-- Where the names stay as they are, so does the shape. -/
theorem shape_mapStrings {v : Json}
    (h : EveryObject (fun names => names.Nodup ∧ ∀ name ∈ names, f name = name) v) :
    shape (mapStrings f v) = shape v := by
  induction h with
  | null | bool | int | float => rfl
  | string s => rfl
  | @array vs _ ih =>
    rw [mapStrings, shape, shape, mapItems_eq, itemShapes_eq, itemShapes_eq, List.map_map]
    exact congrArg Json.array (List.map_congr_left ih)
  | @object ms hnames _ ih =>
    obtain ⟨hnodup, hfixed⟩ := hnames
    have hmembers : mapMembers f ms = ms.map fun m => (m.1, mapStrings f m.2) := by
      rw [mapMembers_eq]
      exact List.map_congr_left fun m hm => by rw [hfixed m.1 (List.mem_map_of_mem hm)]
    have hmerge : Entries.merge (mapMembers f ms) = mapMembers f ms := by
      rw [← Entries.collapse_eq_merge, hmembers]
      exact Entries.collapse_of_nodup (by rwa [List.map_map])
    rw [mapStrings, hmerge, shape, shape, memberShapes_eq, memberShapes_eq, hmembers, List.map_map]
    exact congrArg Json.object
      (List.map_congr_left fun m hm => congrArg (Prod.mk m.1) (ih m hm))

end HttpScript.Json
