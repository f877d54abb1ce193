import HttpScript.Http.Message

/-!
# Header lines

Headers of one name, whatever its letter case, stand together: at the place where the name first
came, in its first spelling, with all values in order.
-/
namespace HttpScript

/-- The values of one name. -/
structure HeaderGroup where
  name : String
  values : List String
  deriving Repr, DecidableEq

abbrev HeaderGroups := List HeaderGroup

namespace HeaderGroups

/-- Add a value to those of its name. -/
def add (name value : String) : HeaderGroups → HeaderGroups
  | [] => [⟨name, [value]⟩]
  | g :: rest =>
    if Text.sameIgnoringCase g.name name then ⟨g.name, g.values ++ [value]⟩ :: rest
    else g :: add name value rest

def ofList (headers : List Header) : HeaderGroups :=
  headers.foldl (fun groups h => add h.1 h.2 groups) []

/-- One line for every value. -/
def lines (groups : HeaderGroups) : List Header :=
  groups.flatMap fun g => g.values.map fun v => (g.name, v)

/-- One line for every name. -/
def merged (groups : HeaderGroups) : List Header :=
  groups.map fun g => (g.name, ", ".intercalate g.values)

/-- The values of a name. -/
def get (name : String) (groups : HeaderGroups) : List String :=
  ((groups.find? fun g => Text.sameIgnoringCase g.name name).map HeaderGroup.values).getD []

end HeaderGroups

/-- Headers of which a later one takes the place of an earlier one with the same name. -/
def putHeader (name value : String) : List Header → List Header
  | [] => [(name, value)]
  | h :: rest =>
    if Text.sameIgnoringCase h.1 name then (name, value) :: rest
    else h :: putHeader name value rest

/-! ## Headers with different names -/

/-- No name stands twice, in whatever letter case. -/
def NamesDiffer (headers : List Header) : Prop :=
  headers.Pairwise fun h h' => Text.sameIgnoringCase h.1 h'.1 = false

instance (headers : List Header) : Decidable (NamesDiffer headers) :=
  inferInstanceAs (Decidable (List.Pairwise _ headers))

theorem sameIgnoringCase_iff {a b : String} :
    Text.sameIgnoringCase a b = true ↔ Text.lower a.toList = Text.lower b.toList := beq_iff_eq

theorem mem_putHeader {name value : String} {headers : List Header} {h : Header}
    (hmem : h ∈ putHeader name value headers) : h = (name, value) ∨ h ∈ headers := by
  induction headers with
  | nil => exact .inl (List.mem_singleton.1 hmem)
  | cons o rest ih =>
    rw [putHeader] at hmem
    split at hmem
    · obtain rfl | hrest := List.mem_cons.1 hmem
      · exact .inl rfl
      · exact .inr (List.mem_cons_of_mem _ hrest)
    · obtain rfl | hrest := List.mem_cons.1 hmem
      · exact .inr List.mem_cons_self
      · exact (ih hrest).imp_right (List.mem_cons_of_mem _)

theorem NamesDiffer.putHeader {headers : List Header} (name value : String)
    (h : NamesDiffer headers) : NamesDiffer (putHeader name value headers) := by
  induction headers with
  | nil => exact List.pairwise_singleton _ _
  | cons o rest ih =>
    obtain ⟨hothers, hrest⟩ := List.pairwise_cons.1 h
    rw [HttpScript.putHeader]
    split
    next hsame =>
      refine List.pairwise_cons.2 ⟨fun h' hh' => ?_, hrest⟩
      have hother := hothers h' hh'
      rwa [Text.sameIgnoringCase, sameIgnoringCase_iff.1 hsame] at hother
    next hsame =>
      refine List.pairwise_cons.2 ⟨fun h' hh' => ?_, ih hrest⟩
      obtain rfl | hh' := mem_putHeader hh'
      · exact Bool.eq_false_iff.2 hsame
      · exact hothers h' hh'

/-- Headers of which each name has one value. -/
structure HeaderMap where
  list : List Header
  differ : NamesDiffer list
  deriving Repr

namespace HeaderMap

/-- Write a value under a name, in the place of the one before. -/
def put (name value : String) (m : HeaderMap) : HeaderMap :=
  ⟨putHeader name value m.list, m.differ.putHeader name value⟩

def putAll (headers : List Header) (m : HeaderMap) : HeaderMap :=
  headers.foldl (fun acc h => acc.put h.1 h.2) m

def ofList (headers : List Header) : HeaderMap := putAll headers ⟨[], List.Pairwise.nil⟩

end HeaderMap

/-! ## Headers of a session and of a message -/

/-- The headers of a message: those of the session, of which each gives way to headers of the
message with its name, and then those of the message, every one of them. -/
def combineHeaders (session own : List Header) : HeaderGroups :=
  let kept := session.filter fun h => !own.any fun o => Text.sameIgnoringCase h.1 o.1
  own.foldl (fun groups h => groups.add h.1 h.2) (HeaderGroups.ofList kept)

end HttpScript
