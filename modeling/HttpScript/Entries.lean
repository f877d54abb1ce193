/-!
# Ordered entries

Keys with values, each key once, in the order in which the keys were first written.
-/
namespace HttpScript.Entries

/-- The value under a key. -/
def get? {α : Type} (key : String) : List (String × α) → Option α
  | [] => none
  | (k, v) :: rest => if k == key then some v else get? key rest

def contains {α : Type} (key : String) (entries : List (String × α)) : Bool :=
  (get? key entries).isSome

/-- Write a value under a key: in place when the key is present, else at the end. -/
def put {α : Type} (key : String) (value : α) : List (String × α) → List (String × α)
  | [] => [(key, value)]
  | (k, v) :: rest => if k == key then (key, value) :: rest else (k, v) :: put key value rest

/-- Write entries one after another. -/
def putAll {α : Type} (entries new : List (String × α)) : List (String × α) :=
  new.foldl (fun acc e => put e.1 e.2 acc) entries

/-- Of entries with the same key the last value stays, in the place of the first. -/
def collapse {α : Type} (entries : List (String × α)) : List (String × α) := putAll [] entries

/-- Write a value only if the key is not present. -/
def putNew {α : Type} (key : String) (value : α) (entries : List (String × α)) :
    List (String × α) :=
  if contains key entries then entries else entries ++ [(key, value)]

theorem get?_put_self {α : Type} (key : String) (value : α) (entries : List (String × α)) :
    get? key (put key value entries) = some value := by
  induction entries with
  | nil => simp [put, get?]
  | cons e rest ih =>
    obtain ⟨k, v⟩ := e
    by_cases h : k = key <;> simp [put, get?, h, ih]

theorem get?_put_of_ne {α : Type} {key other : String} (h : other ≠ key) (value : α)
    (entries : List (String × α)) : get? other (put key value entries) = get? other entries := by
  induction entries with
  | nil => simp [put, get?, h.symm]
  | cons e rest ih =>
    obtain ⟨k, v⟩ := e
    by_cases hk : k = key
    · subst hk
      simp [put, get?, h.symm]
    · by_cases ho : k = other
      · subst ho
        simp [put, get?, hk]
      · simp [put, get?, hk, ho, ih]

end HttpScript.Entries
