import HttpScript.Entries
import Mathlib.Tactic

/-!
# What a sequence of writes leaves under a key

After any number of writes the value under a key is the last one written there. The keys stand in
the order of their first writes, and writing the same entries again changes nothing.
-/
namespace HttpScript.Entries

variable {α : Type}

/-- The value that a sequence of writes leaves under a key, if any of them is to that key. -/
def lastWrite? (key : String) (writes : List (String × α)) : Option α :=
  (writes.filter (·.1 == key)).getLast?.map (·.2)

@[simp] theorem lastWrite?_nil (key : String) : lastWrite? key ([] : List (String × α)) = none :=
  rfl

theorem lastWrite?_append (key : String) (a b : List (String × α)) :
    lastWrite? key (a ++ b) = (lastWrite? key b).or (lastWrite? key a) := by
  rw [lastWrite?, List.filter_append, List.getLast?_append, Option.map_or]
  rfl

theorem lastWrite?_cons (key : String) (w : String × α) (ws : List (String × α)) :
    lastWrite? key (w :: ws) = (lastWrite? key ws).or (if w.1 = key then some w.2 else none) := by
  rw [← List.singleton_append, lastWrite?_append]
  by_cases h : w.1 = key <;> simp [lastWrite?, h]

theorem putAll_cons (entries : List (String × α)) (w : String × α) (ws : List (String × α)) :
    putAll entries (w :: ws) = putAll (put w.1 w.2 entries) ws := rfl

theorem putAll_append (entries a b : List (String × α)) :
    putAll entries (a ++ b) = putAll (putAll entries a) b := List.foldl_append

theorem get?_put (key other : String) (value : α) (entries : List (String × α)) :
    get? other (put key value entries) = if key = other then some value else get? other entries := by
  split
  · rename_i h; rw [h, get?_put_self]
  · rename_i h; exact get?_put_of_ne (Ne.symm h) value entries

theorem get?_putAll (key : String) (entries writes : List (String × α)) :
    get? key (putAll entries writes) = (lastWrite? key writes).or (get? key entries) := by
  induction writes generalizing entries with
  | nil => simp [putAll]
  | cons w ws ih =>
    rw [putAll_cons, ih, lastWrite?_cons, get?_put]
    cases lastWrite? key ws with
    | some v => simp
    | none => split <;> simp

theorem mem_of_get? {key : String} {entries : List (String × α)} {value : α}
    (h : get? key entries = some value) : (key, value) ∈ entries := by
  induction entries with
  | nil => cases h
  | cons e rest ih =>
    obtain ⟨k, v⟩ := e
    rw [get?] at h
    split at h
    · rename_i hk
      obtain rfl := beq_iff_eq.1 hk
      obtain rfl := Option.some.inj h
      exact List.mem_cons_self
    · exact List.mem_cons_of_mem _ (ih h)

theorem get?_append (key : String) (a b : List (String × α)) :
    get? key (a ++ b) = (get? key a).or (get? key b) := by
  induction a with
  | nil => rfl
  | cons e rest ih =>
    obtain ⟨k, v⟩ := e
    by_cases h : k = key <;> simp [get?, h, ih]

theorem get?_putNew_of_ne {key other : String} (h : other ≠ key) (value : α)
    (entries : List (String × α)) : get? other (putNew key value entries) = get? other entries := by
  rw [putNew]
  split
  · rfl
  · simp [get?_append, get?, Ne.symm h]

/-! ### Names -/

theorem put_of_not_mem {key : String} {entries : List (String × α)}
    (h : key ∉ entries.map (·.1)) (value : α) :
    put key value entries = entries ++ [(key, value)] := by
  induction entries with
  | nil => rfl
  | cons e rest ih =>
    obtain ⟨k, v⟩ := e
    simp only [List.map_cons, List.mem_cons, not_or] at h
    rw [put, if_neg (by simpa using Ne.symm h.1), ih h.2]
    rfl

theorem names_put (key : String) (value : α) (entries : List (String × α)) :
    (put key value entries).map (·.1) =
      if key ∈ entries.map (·.1) then entries.map (·.1) else entries.map (·.1) ++ [key] := by
  induction entries with
  | nil => rfl
  | cons e rest ih =>
    obtain ⟨k, v⟩ := e
    by_cases h : k = key
    · simp [put, h]
    · by_cases hrest : key ∈ rest.map (·.1)
      · simp only [put, beq_iff_eq, if_neg h, List.map_cons, ih, List.mem_cons, hrest, or_true, if_true]
      · simp only [put, beq_iff_eq, if_neg h, List.map_cons, ih, List.mem_cons,
          Ne.symm h, hrest, or_self, if_false, List.cons_append]

theorem collapse_append (a : List (String × α)) (e : String × α) :
    collapse (a ++ [e]) = put e.1 e.2 (collapse a) := putAll_append [] a [e]

/-- The names stay in the order of their first writes. -/
theorem names_collapse (entries : List (String × α)) :
    (collapse entries).map (·.1) = (entries.map (·.1)).eraseDups := by
  induction entries using List.reverseRecOn with
  | nil => rfl
  | append_singleton entries e ih =>
    rw [collapse_append, names_put, ih, List.map_append, List.eraseDups_append]
    by_cases h : e.1 ∈ entries.map (·.1)
    · rw [if_pos (List.mem_eraseDups.2 h)]
      simp [List.removeAll, h]
    · rw [if_neg (fun hm => h (List.mem_eraseDups.1 hm))]
      simp [List.removeAll, h, List.eraseDups_cons]

theorem collapse_of_nodup {entries : List (String × α)} (h : (entries.map (·.1)).Nodup) :
    collapse entries = entries := by
  induction entries using List.reverseRecOn with
  | nil => rfl
  | append_singleton entries e ih =>
    rw [List.map_append, List.nodup_append] at h
    obtain ⟨hentries, -, hdisjoint⟩ := h
    rw [collapse_append, ih hentries, put_of_not_mem]
    exact fun hm => hdisjoint _ hm _ (by simp) rfl

/-- Each name once, in the order of the first occurrences, with the value it has last. -/
def merge (entries : List (String × α)) : List (String × α) :=
  (entries.map (·.1)).eraseDups.filterMap fun k => (lastWrite? k entries).map (k, ·)

theorem nodup_names_collapse (entries : List (String × α)) :
    ((collapse entries).map (·.1)).Nodup := by
  induction entries using List.reverseRecOn with
  | nil => exact List.nodup_nil
  | append_singleton entries e ih =>
    rw [collapse_append, names_put]
    split
    · exact ih
    · rename_i h
      refine List.nodup_append.2 ⟨ih, List.nodup_singleton _, fun k hk k' hk' => ?_⟩
      rw [List.mem_singleton.1 hk']
      exact ne_of_mem_of_not_mem hk h

/-- Entries without a name twice are told by their names and look-ups. -/
theorem filterMap_get? {entries : List (String × α)} (h : (entries.map (·.1)).Nodup) :
    (entries.map (·.1)).filterMap (fun k => (get? k entries).map (k, ·)) = entries := by
  induction entries with
  | nil => rfl
  | cons e rest ih =>
    obtain ⟨k, v⟩ := e
    rw [List.map_cons, List.nodup_cons] at h
    have hrest : ∀ key ∈ rest.map (·.1), (get? key ((k, v) :: rest)).map (key, ·) =
        (get? key rest).map (key, ·) := by
      intro key hkey
      rw [get?, if_neg (by simpa using ne_of_mem_of_not_mem hkey h.1 |>.symm)]
    rw [List.map_cons, List.filterMap_cons, List.filterMap_congr hrest, ih h.2, get?]
    simp

theorem collapse_eq_merge (entries : List (String × α)) : collapse entries = merge entries := by
  have hget : ∀ k, get? k (collapse entries) = lastWrite? k entries := by
    intro k
    rw [collapse, get?_putAll, get?, Option.or_none]
  calc collapse entries
      = ((collapse entries).map (·.1)).filterMap
          (fun k => (get? k (collapse entries)).map (k, ·)) :=
        (filterMap_get? (nodup_names_collapse entries)).symm
    _ = merge entries := by simp only [hget, names_collapse, merge]

theorem mem_of_mem_merge {entries : List (String × α)} {e : String × α} (h : e ∈ merge entries) :
    e ∈ entries := by
  obtain ⟨k, -, hk⟩ := List.mem_filterMap.1 h
  obtain ⟨v, hv, rfl⟩ := Option.map_eq_some_iff.1 hk
  obtain ⟨w, hw, rfl⟩ := Option.map_eq_some_iff.1 hv
  obtain ⟨hmem, hname⟩ := List.mem_filter.1 (List.mem_of_getLast? hw)
  rwa [← beq_iff_eq.1 hname]

end HttpScript.Entries
