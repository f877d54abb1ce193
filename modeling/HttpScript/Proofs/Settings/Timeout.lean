import HttpScript.Proofs.Decimal.Overflow
import HttpScript.Proofs.Except
import HttpScript.Proofs.Settings

/-!
# Which timeouts are loaded

A timeout comes from the environment if it is set there, and else from the settings file. What is
zero or less is refused, so a timeout that is loaded is positive, unless the setting is the value that
is not a number: that one passes, since it is not at most zero either.
-/
namespace HttpScript

/-! ### Comparison with zero -/

namespace Decimal

open Float.Model

theorem unpack_zero : (0.0 : Float).toModel.unpack = .zero .positive := by rfl

/-- A number is positive if it is not at most zero, and is one at all. -/
theorem zero_lt_iff (x : Float) : 0.0 < x ↔ ¬ x ≤ 0.0 ∧ x.isNaN = false := by
  have hle : x ≤ 0.0 ↔ x.toModel.unpack.le (0.0 : Float).toModel.unpack = true := by
    change decide (x.toModel.unpack.le (0.0 : Float).toModel.unpack = true) = true ↔ _
    rw [decide_eq_true_eq]
  have hlt : 0.0 < x ↔ (0.0 : Float).toModel.unpack.lt x.toModel.unpack = true := by
    change decide ((0.0 : Float).toModel.unpack.lt x.toModel.unpack = true) = true ↔ _
    rw [decide_eq_true_eq]
  have hnan : x.isNaN = x.toModel.unpack.isNaN := rfl
  rw [hle, hlt, hnan, unpack_zero]
  cases x.toModel.unpack with
  | notANumber => decide
  | infinity sign | zero sign => cases sign <;> decide
  | finite sign m e pos =>
    cases sign <;>
      simp [UnpackedFloat.le, UnpackedFloat.lt, UnpackedFloat.compare, UnpackedFloat.isNaN]

/-! ### Texts that are not a number -/

/-- A text is `nan` in any letter case, after a sign or none, with blanks around it. -/
def SpellsNaN (s : List Char) : Prop :=
  (splitSign (trimPadding s)).2.map Char.toLower = ['n', 'a', 'n']

theorem plainDigit_eq_self {c : Char} (h : (plainDigit c).isDigit = false) : plainDigit c = c := by
  unfold plainDigit at h ⊢
  split
  · rename_i n hvalue
    rw [hvalue] at h
    obtain ⟨first, hfirst, rfl⟩ := Option.map_eq_some_iff.1 hvalue
    have hrange := List.find?_some hfirst
    simp only [Bool.and_eq_true, decide_eq_true_eq] at hrange
    have hdigit : ∀ n < 10, (Char.ofNat (48 + n)).isDigit = true := by decide
    rw [hdigit _ (by omega)] at h
    cases h
  · rfl

/-- Low lines are left out only beside digits. -/
theorem eq_of_joinDigits {before : Char} {s t : List Char} (h : joinDigits before s = some t)
    (hdigits : ∀ c ∈ t, c.isDigit = false) : s = t := by
  fun_induction joinDigits before s generalizing t with
  | case1 => simpa using h
  | case2 before c s hboth ih =>
    rw [Bool.and_eq_true] at hboth
    have hc := hdigits c (ih h hdigits ▸ List.mem_cons_self)
    rw [hboth.2] at hc
    cases hc
  | case3 => cases h
  | case4 => cases h
  | case5 before c s _ _ ih =>
    obtain ⟨u, hu, rfl⟩ := Option.map_eq_some_iff.1 h
    rw [ih hu fun d hd => hdigits d (List.mem_cons_of_mem _ hd)]

theorem joinDigits_of_not_mem {s : List Char} (h : '_' ∉ s) (before : Char) :
    joinDigits before s = some s := by
  induction s generalizing before with
  | nil => rw [joinDigits]
  | cons c s ih =>
    rw [List.mem_cons, not_or] at h
    unfold joinDigits
    split
    · rename_i hnil
      cases hnil
    · rename_i hcons
      exact absurd (List.cons.inj hcons).1.symm h.1
    · rename_i hcons
      exact absurd (List.cons.inj hcons).1.symm h.1
    · rename_i hcons
      obtain ⟨rfl, rfl⟩ := List.cons.inj hcons
      rw [ih h.2, Option.map_some]

/-- The characters of the texts that spell no number. -/
def lettersOfNaN : List Char := ['n', 'N', 'a', 'A', '+', '-']

theorem eq_or_eq_toUpper_of_toLower {c d : Char} (h : c.toLower = d) : c = d ∨ c = d.toUpper := by
  by_cases hupper : c.isUpper = true
  · right
    have hlower : ¬ c.isLower = true := by
      simp only [Char.isUpper, Char.isLower, Bool.and_eq_true, decide_eq_true_eq, not_and,
        ge_iff_le, UInt32.le_iff_toNat_le] at hupper ⊢
      have hless : 'Z'.val.toNat < 'a'.val.toNat := by decide
      omega
    rw [← h, Char.toUpper_toLower_eq_toUpper, Char.toUpper_eq_of_not_isLower hlower]
  · left
    rw [← h, Char.toLower_eq_of_not_isUpper hupper]

theorem mem_lettersOfNaN_of_map {s : List Char} (h : s.map Char.toLower = ['n', 'a', 'n']) {c : Char}
    (hc : c ∈ s) : c ∈ lettersOfNaN := by
  have hlower : c.toLower ∈ ['n', 'a', 'n'] := h ▸ List.mem_map_of_mem hc
  have hcases : ∀ d ∈ ['n', 'a', 'n'], d ∈ lettersOfNaN ∧ d.toUpper ∈ lettersOfNaN := by
    simp [lettersOfNaN]
  obtain ⟨hsmall, hcapital⟩ := hcases _ hlower
  rcases eq_or_eq_toUpper_of_toLower rfl with heq | heq
  · rwa [← heq] at hsmall
  · rwa [← heq] at hcapital

theorem mem_lettersOfNaN {s : List Char} (h : (splitSign s).2.map Char.toLower = ['n', 'a', 'n'])
    {c : Char} (hc : c ∈ s) : c ∈ lettersOfNaN := by
  unfold splitSign at h
  split at h
  · rcases List.mem_cons.1 hc with rfl | hc
    · decide
    · exact mem_lettersOfNaN_of_map h hc
  · rcases List.mem_cons.1 hc with rfl | hc
    · decide
    · exact mem_lettersOfNaN_of_map h hc
  · exact mem_lettersOfNaN_of_map h hc

theorem isPlain_lettersOfNaN :
    ∀ c ∈ lettersOfNaN, c.isDigit = false ∧ c ≠ '_' ∧ plainDigit c = c := by
  intro c hc
  fin_cases hc <;> exact ⟨rfl, by decide, rfl⟩

/-- A text that spells no number has no digits and no low lines, so nothing in it is changed. -/
theorem spells_iff_of_joinDigits {s t : List Char}
    (h : joinDigits ' ' (s.map plainDigit) = some t) :
    (splitSign s).2.map Char.toLower = ['n', 'a', 'n'] ↔
      (splitSign t).2.map Char.toLower = ['n', 'a', 'n'] := by
  constructor
  · intro hs
    have hplain := fun c hc => isPlain_lettersOfNaN c (mem_lettersOfNaN hs (c := c) hc)
    have hsame : s.map plainDigit = s := (List.map_congr_left fun c hc => (hplain c hc).2.2).trans
      (List.map_id' s)
    rw [hsame, joinDigits_of_not_mem fun hc => (hplain _ hc).2.1 rfl] at h
    obtain rfl := Option.some.inj h
    exact hs
  · intro ht
    have hdigits : ∀ c ∈ t, c.isDigit = false := fun c hc =>
      (isPlain_lettersOfNaN c (mem_lettersOfNaN ht hc)).1
    have hjoined := eq_of_joinDigits h hdigits
    have hsame : s.map plainDigit = s := by
      refine (List.map_congr_left fun c hc => ?_).trans (List.map_id' s)
      exact plainDigit_eq_self (hdigits _ (hjoined ▸ List.mem_map_of_mem hc))
    rw [hsame] at hjoined
    rwa [hjoined]

/-- Of the names of numbers, one stands for the value that is not a number. -/
theorem named?_cases (negative : Bool) (s : List Char) :
    s.map Char.toLower = ['n', 'a', 'n'] ∧ named? negative s = some (0.0 / 0.0) ∨
      s.map Char.toLower ≠ ['n', 'a', 'n'] ∧
        ∀ x, named? negative s = some x → x.isNaN = false := by
  by_cases hnan : s.map Char.toLower = ['n', 'a', 'n']
  · refine .inl ⟨hnan, ?_⟩
    rw [named?, hnan]
    rfl
  · refine .inr ⟨hnan, fun x h => ?_⟩
    unfold named? at h
    dsimp only at h
    split at h
    · obtain rfl := Option.some.inj h
      cases negative <;> decide +kernel
    · split at h
      · rename_i hword
        rw [beq_iff_eq, ← String.toList_inj, String.toList_ofList] at hword
        exact absurd hword hnan
      · cases h

theorem isNaN_of_magnitude? {negative : Bool} {s : List Char} {x : Float}
    (h : magnitude? negative s = some x) : x.isNaN = false := by
  unfold magnitude? at h
  dsimp only at h
  -- with a point among the digits, and without
  split at h
  all_goals
    split at h
    · cases h
    · obtain ⟨exponent, -, hx⟩ := Option.bind_eq_some_iff.1 h
      obtain rfl := Option.some.inj hx
      exact isNaN_nearest _ _ _

/-- Of the texts that are read as numbers, those are read as the value that is not a number. -/
theorem isNaN_of_ofText? {s : List Char} {x : Float} (h : ofText? s = some x) :
    x.isNaN = true ↔ SpellsNaN s := by
  obtain ⟨t, ht, hread⟩ := Option.bind_eq_some_iff.1 h
  rw [SpellsNaN, spells_iff_of_joinDigits ht]
  dsimp only at hread
  rcases named?_cases (splitSign t).1 (splitSign t).2 with ⟨hnan, hnamed⟩ | ⟨hnan, hnamed⟩
  · rw [hnamed] at hread
    obtain rfl := Option.some.inj hread
    exact iff_of_true (by decide +kernel) hnan
  · refine iff_of_false (Bool.not_eq_true _ ▸ ?_) hnan
    split at hread
    · rename_i y hy
      obtain rfl := Option.some.inj hread
      exact hnamed y hy
    · exact isNaN_of_magnitude? hread

end Decimal

/-! ### Values of a setting -/

namespace Settings

/-- The value is not a number, or spells that. -/
def IsUndefined : Yaml.Value → Prop
  | .float x => x.isNaN = true
  | .text s => Decimal.SpellsNaN s.toList
  | .bytes content =>
    Decimal.SpellsNaN (content.map fun b => if b < 0x80 then Char.ofNat b.toNat else '?')
  | _ => False

theorem isNaN_of_number? {raw : Yaml.Value} {x : Float} (h : number? raw = .ok (some x)) :
    x.isNaN = true ↔ IsUndefined raw := by
  unfold number? at h
  split at h
  · rename_i b
    obtain rfl := Option.some.inj (Except.ok.inj h)
    refine iff_of_false ?_ id
    cases b <;> decide +kernel
  · rename_i n
    split at h
    · rename_i y hy
      obtain rfl := Option.some.inj (Except.ok.inj h)
      unfold Decimal.ofInt? at hy
      dsimp only at hy
      split at hy
      · obtain rfl := Option.some.inj hy
        exact iff_of_false (by rw [Decimal.isNaN_nearest]; decide) id
      · cases hy
    · cases h
  · obtain rfl := Option.some.inj (Except.ok.inj h)
    exact Iff.rfl
  · exact Decimal.isNaN_of_ofText? (Except.ok.inj h)
  · exact Decimal.isNaN_of_ofText? (Except.ok.inj h)
  · cases h

/-- A timeout is taken if it is a number that is not at most zero. -/
theorem timeoutOf_eq_ok_iff {raw : Yaml.Value} {x : Float} :
    timeoutOf raw = .ok x ↔ number? raw = .ok (some x) ∧ ¬ x ≤ 0.0 := by
  unfold timeoutOf
  rw [bind_eq_ok_iff]
  constructor
  · rintro ⟨found, hnumber, h⟩
    split at h
    · obtain ⟨_, -, h⟩ := bind_eq_ok_iff.1 h
      cases h
    · split at h
      · obtain ⟨_, -, h⟩ := bind_eq_ok_iff.1 h
        cases h
      · rename_i hpositive
        obtain rfl := Except.ok.inj h
        exact ⟨hnumber, hpositive⟩
  · rintro ⟨hnumber, hpositive⟩
    exact ⟨some x, hnumber, if_neg hpositive⟩

/-- Where a timeout comes from: the environment, if it is set there, or else the file, or nowhere. -/
inductive TimeoutFrom (env : Environment) (file : List (Yaml.Value × Yaml.Value)) :
    Option Yaml.Value → Prop
  | environment {v : String} (set : Entries.get? "NUGGET_TIMEOUT_SEC" env = some v)
      (nonempty : v ≠ "") : TimeoutFrom env file (some (.text v))
  | file {raw : Yaml.Value} (unset : ∀ v, Entries.get? "NUGGET_TIMEOUT_SEC" env = some v → v = "")
      (found : Yaml.Value.field? "timeout_sec" file = some raw) (nonempty : raw ≠ .text "")
      (nonnull : raw ≠ .null) : TimeoutFrom env file (some raw)
  | nowhere (unset : ∀ v, Entries.get? "NUGGET_TIMEOUT_SEC" env = some v → v = "")
      (absent : ∀ raw, Yaml.Value.field? "timeout_sec" file = some raw →
        raw = .text "" ∨ raw = .null) : TimeoutFrom env file none

theorem isSet_eq_true_iff {raw : Yaml.Value} : isSet raw = true ↔ raw ≠ .text "" ∧ raw ≠ .null := by
  cases raw with
  | null => exact iff_of_false (by decide) fun h => h.2 rfl
  | text s =>
    rw [isSet, Bool.not_eq_true', ← Bool.not_eq_true, String.isEmpty_iff]
    exact ⟨fun h => ⟨fun heq => h (Yaml.Value.text.inj heq), nofun⟩, fun h heq => h.1 (heq ▸ rfl)⟩
  | _ => exact ⟨fun _ => ⟨nofun, nofun⟩, fun _ => rfl⟩

theorem timeoutFrom_of_unset {env : Environment} {file : List (Yaml.Value × Yaml.Value)}
    (unset : ∀ v, Entries.get? "NUGGET_TIMEOUT_SEC" env = some v → v = "") :
    TimeoutFrom env file ((Yaml.Value.field? "timeout_sec" file).filter isSet) := by
  cases hfield : Yaml.Value.field? "timeout_sec" file with
  | none => exact .nowhere unset fun raw hraw => by rw [hfield] at hraw; cases hraw
  | some raw =>
    by_cases hset : isSet raw = true
    · rw [Option.filter_some_pos hset]
      obtain ⟨hnonempty, hnonnull⟩ := isSet_eq_true_iff.1 hset
      exact .file unset hfield hnonempty hnonnull
    · rw [Option.filter_some_neg (Bool.eq_false_iff.2 hset)]
      refine .nowhere unset fun other hother => ?_
      obtain rfl := Option.some.inj (hfield.symm.trans hother)
      by_contra hneither
      exact hset (isSet_eq_true_iff.2 (not_or.1 hneither))

theorem timeoutFrom_find? (env : Environment) (file : List (Yaml.Value × Yaml.Value)) :
    TimeoutFrom env file (find? env file timeoutKey) := by
  unfold find? find?.fromFile
  dsimp only [timeoutKey]
  cases henv : Entries.get? "NUGGET_TIMEOUT_SEC" env with
  | none => exact timeoutFrom_of_unset fun v hv => by rw [henv] at hv; cases hv
  | some v =>
    dsimp only
    split
    · rename_i hempty
      refine timeoutFrom_of_unset fun w hw => ?_
      obtain rfl := Option.some.inj (henv.symm.trans hw)
      exact String.isEmpty_iff.1 hempty
    · rename_i hempty
      exact .environment henv fun h => hempty (String.isEmpty_iff.2 h)

/-! ### Loading -/

/-- A timeout is there exactly when it is set, in the environment or else in the file. It is the
number that the setting spells, and positive unless that is no number. -/
theorem timeout_of_load {reader : Yaml.Reader} {files : Files} {home : String} {env : Environment}
    {path : Option String} {settings : Settings}
    (h : load reader files home env path = .ok settings) :
    ∃ file raw, entries reader files home path = .ok file ∧ TimeoutFrom env file raw ∧
      (raw = none ∧ settings.timeout = none ∨
        ∃ v t, raw = some v ∧ settings.timeout = some t ∧ number? v = .ok (some t) ∧
          (0.0 < t ↔ ¬ IsUndefined v) ∧ (t.isNaN = true ↔ IsUndefined v)) := by
  obtain ⟨file, hfile, h⟩ := bind_eq_ok_iff.1 h
  obtain ⟨timeout, htimeout, h⟩ := bind_eq_ok_iff.1 h
  obtain ⟨apiUrl, -, h⟩ := bind_eq_ok_iff.1 h
  obtain ⟨clientId, -, h⟩ := bind_eq_ok_iff.1 h
  obtain ⟨apiKey, -, h⟩ := bind_eq_ok_iff.1 h
  obtain rfl := Except.ok.inj h
  refine ⟨file, _, hfile, timeoutFrom_find? env file, ?_⟩
  cases hraw : find? env file timeoutKey with
  | none =>
    rw [hraw] at htimeout
    exact .inl ⟨rfl, (Except.ok.inj htimeout).symm⟩
  | some v =>
    rw [hraw, Option.mapM_some, map_eq_pure_bind] at htimeout
    obtain ⟨t, hread, hsome⟩ := bind_eq_ok_iff.1 htimeout
    obtain rfl := Except.ok.inj hsome
    obtain ⟨hnumber, hpositive⟩ := timeoutOf_eq_ok_iff.1 hread
    have hnan := isNaN_of_number? hnumber
    refine .inr ⟨v, t, rfl, rfl, hnumber, ?_, hnan⟩
    rw [Decimal.zero_lt_iff, and_iff_right hpositive, ← hnan, Bool.not_eq_true]

/-- Blanks around the number, its sign, its exponent and low lines between its digits are read. -/
theorem timeout_of_load_spelled : ∃ settings : Settings,
    load emptyReader (fun _ => .missing) "" [("NUGGET_TIMEOUT_SEC", " +1_0.5e1 ")] none =
        .ok settings ∧
      settings.timeout = some 105.0 ∧
      ∃ file raw, entries emptyReader (fun _ => .missing) "" none = .ok file ∧
        TimeoutFrom [("NUGGET_TIMEOUT_SEC", " +1_0.5e1 ")] file raw ∧
        (raw = none ∧ settings.timeout = none ∨
          ∃ v t, raw = some v ∧ settings.timeout = some t ∧ number? v = .ok (some t) ∧
            (0.0 < t ↔ ¬ IsUndefined v) ∧ (t.isNaN = true ↔ IsUndefined v)) :=
  ⟨_, rfl, rfl, timeout_of_load rfl⟩

/-- A timeout that is not a number is neither refused nor positive. -/
theorem not_forall_timeout_pos : ¬ ∀ (reader : Yaml.Reader) (files : Files) (home : String)
    (env : Environment) (path : Option String) (settings : Settings) (t : Float),
    load reader files home env path = .ok settings → settings.timeout = some t → 0.0 < t := by
  intro hall
  have hload := hall emptyReader (fun _ => .missing) "" [("NUGGET_TIMEOUT_SEC", "nan")] none _
    (0.0 / 0.0) rfl rfl
  exact absurd hload (by decide +kernel)

end Settings

end HttpScript
