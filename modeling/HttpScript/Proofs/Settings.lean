import HttpScript.Proofs.Decimal
import HttpScript.Proofs.Text.Utf8
import HttpScript.Settings

/-!
# What loading settings can come to

Settings are loaded, or an expected fault says what is wrong with them, unless the settings file has
bytes or values that go past every check: bytes that are no text, a YAML value that does not exist,
an integer too large to be a number of seconds, or one too long to be shown.
-/
namespace HttpScript.Settings

/-- Loading stops with a fault that settings are not expected to have. -/
def Escapes {α : Type} (x : Except SettingsFault α) : Prop :=
  ∃ fault, x = .error fault ∧ fault.isExpected = false

section
variable {α β : Type}

@[simp] theorem not_escapes_ok (a : α) : ¬ Escapes (.ok a : Except SettingsFault α) := by
  rintro ⟨fault, h, -⟩
  cases h

@[simp] theorem escapes_error_iff (fault : SettingsFault) :
    Escapes (.error fault : Except SettingsFault α) ↔ fault.isExpected = false := by
  constructor
  · rintro ⟨_, h, hfault⟩
    cases h
    exact hfault
  · intro h
    exact ⟨fault, rfl, h⟩

@[simp] theorem escapes_map_iff (f : α → β) (x : Except SettingsFault α) :
    Escapes (f <$> x) ↔ Escapes x := by
  cases x with
  | error fault => simp [Functor.map, Except.map]
  | ok a => simp [Functor.map, Except.map]

/-- A fault escapes from steps when it does from the first, or from the others after it. -/
theorem escapes_bind_iff {x : Except SettingsFault α} {f : α → Except SettingsFault β} :
    Escapes (x >>= f) ↔ Escapes x ∨ ∃ a, x = .ok a ∧ Escapes (f a) := by
  cases x with
  | error fault => simp [bind, Except.bind]
  | ok a => simp [bind, Except.bind]

end

/-! ### The settings file -/

/-- Where the settings file is. -/
def place (home : String) (path : Option String) : String :=
  (path.map tidyPath).getD (defaultPath home)

/-- The settings file is there and its bytes are no text, which is not hidden by what stands before
them; or YAML gives its text neither a value nor an error of its own. -/
def Unreadable (reader : Yaml.Reader) (files : Files) (place : String) : Prop :=
  ∃ content, files place = .file content ∧
    ((∀ s, Text.Utf8.encode s ≠ content) ∧ reader.refusesEarly content = none ∨
      ∃ s why, Text.Utf8.encode s = content ∧
        reader.read (Text.unifyLineEnds s) = .error (.other why))

theorem readFile_escapes_iff {reader : Yaml.Reader} {path : String} {content : List UInt8} :
    Escapes (readFile reader path content) ↔
      (∀ s, Text.Utf8.encode s ≠ content) ∧ reader.refusesEarly content = none ∨
        ∃ s why, Text.Utf8.encode s = content ∧
          reader.read (Text.unifyLineEnds s) = .error (.other why) := by
  have hdecode : ∀ s, Text.Utf8.decodeParts partSize [] content = .ok s ↔
      Text.Utf8.encode s = content := fun s => Text.Utf8.decodeParts_eq_ok_iff
  unfold readFile
  cases htext : Text.Utf8.decodeParts partSize [] content with
  | error fault =>
    have hnone : ∀ s, Text.Utf8.encode s ≠ content := by
      intro s hs
      rw [(hdecode s).2 hs] at htext
      cases htext
    cases hearly : reader.refusesEarly content <;> simp [hnone, SettingsFault.isExpected]
  | ok s =>
    obtain rfl := (hdecode s).1 htext
    have hsame : ∀ t, Text.Utf8.encode t = Text.Utf8.encode s ↔ t = s := by
      intro t
      rw [← hdecode t, htext]
      exact ⟨fun h => (Except.ok.inj h).symm, fun h => h ▸ rfl⟩
    have hone : ∃ t, t = s := ⟨s, rfl⟩
    simp only [hsame, ne_eq, not_forall_not.2 hone, false_and, false_or, exists_and_left,
      exists_eq_left]
    split <;> rename_i hread <;> simp [hread, SettingsFault.isExpected]

theorem entries_eq (reader : Yaml.Reader) (files : Files) (home : String) (path : Option String) :
    entries reader files home path =
      match files (place home path) with
      | .missing => if path.isSome then .error (.notFound (place home path)) else .ok []
      | .directory => .error (.directory (place home path))
      | .file content => readFile reader (place home path) content := rfl

theorem entries_escapes_iff {reader : Yaml.Reader} {files : Files} {home : String}
    {path : Option String} :
    Escapes (entries reader files home path) ↔ Unreadable reader files (place home path) := by
  rw [entries_eq, Unreadable]
  cases files (place home path) with
  | missing =>
    dsimp only
    split
    · simp [SettingsFault.isExpected]
    · simp
  | directory => simp [SettingsFault.isExpected]
  | file content => simp [readFile_escapes_iff]

/-! ### Values -/

theorem shown_escapes_iff {form : Yaml.Value → String} {v : Yaml.Value} :
    Escapes (shown form v) ↔ v.isWritable = false := by
  unfold shown
  split
  · rename_i h
    simp [h]
  · rename_i h
    simp [h, SettingsFault.isExpected]

/-- A refusal that shows the value is expected, unless the value cannot be shown. -/
theorem refusal_escapes_iff {α : Type} {form : Yaml.Value → String} {v : Yaml.Value}
    {fault : String → SettingsFault} (hfault : ∀ s, (fault s).isExpected = true) :
    Escapes (shown form v >>= fun s => (.error (fault s) : Except SettingsFault α)) ↔
      v.isWritable = false := by
  simp [escapes_bind_iff, shown_escapes_iff, hfault]

theorem number?_escapes_iff {v : Yaml.Value} :
    Escapes (number? v) ↔ ∃ n, v = .int n ∧ Decimal.ofInt? n = none := by
  unfold number?
  split
  · simp
  · rename_i n
    split
    · rename_i hn
      simp [hn]
    · rename_i hn
      simp [hn, SettingsFault.isExpected]
  · simp
  · simp
  · simp
  · rename_i hint _ _ _
    simp only [not_escapes_ok, false_iff]
    rintro ⟨n, rfl, -⟩
    exact hint n rfl

theorem isWritable_int_iff (n : Int) :
    (Yaml.Value.int n).isWritable = true ↔ n.natAbs < 10 ^ Json.integerDigitLimit := by
  rw [Yaml.Value.isWritable, decide_eq_true_eq]
  exact Nat.length_toDigits_le_iff (by decide) (by decide)

/-- Whatever is a number can be shown: an integer that is too long is too large as well. -/
theorem isWritable_of_number? {v : Yaml.Value} {x : Float} (h : number? v = .ok (some x)) :
    v.isWritable = true := by
  cases v with
  | int n =>
    rw [isWritable_int_iff]
    by_contra hlong
    have hnone : Decimal.ofInt? n = none :=
      Decimal.ofInt?_of_pow_le (by decide) (Nat.le_of_not_lt hlong)
    rw [number?, hnone] at h
    cases h
  | bool | float | text | bytes => rfl
  | null | day | moment | list | pairs | map | set | inside => cases h

theorem timeoutOf_escapes_iff {v : Yaml.Value} :
    Escapes (timeoutOf v) ↔ (∃ n, v = .int n ∧ Decimal.ofInt? n = none) ∨
      (number? v = .ok none ∧ v.isWritable = false) := by
  unfold timeoutOf
  rw [escapes_bind_iff, number?_escapes_iff]
  refine or_congr_right ?_
  constructor
  · rintro ⟨x, hx, h⟩
    cases x with
    | none => exact ⟨hx, (refusal_escapes_iff fun _ => rfl).1 h⟩
    | some x =>
      dsimp only at h
      split at h
      · rw [refusal_escapes_iff fun _ => rfl, isWritable_of_number? hx] at h
        cases h
      · exact absurd h (not_escapes_ok x)
  · rintro ⟨hx, h⟩
    exact ⟨none, hx, (refusal_escapes_iff fun _ => rfl).2 h⟩

theorem textOf_escapes_iff {env : Environment} {file : List (Yaml.Value × Yaml.Value)} {key : Key} :
    Escapes (textOf env file key) ↔ ∃ v, find? env file key = some v ∧ v.isWritable = false := by
  unfold textOf
  split
  · rename_i h
    simp [h]
  · rename_i v h
    simp [h, shown_escapes_iff]

/-- A setting that is a text is there, unless its value cannot be shown. -/
theorem textOf_eq_ok_or_escapes (env : Environment) (file : List (Yaml.Value × Yaml.Value))
    (key : Key) : (∃ s, textOf env file key = .ok s) ∨ Escapes (textOf env file key) := by
  unfold textOf
  split
  · exact .inl ⟨"", rfl⟩
  · unfold shown
    split
    · exact .inl ⟨_, rfl⟩
    · exact .inr ⟨_, rfl, rfl⟩

/-! ### Loading -/

/-- The settings that are texts. -/
def textKeys : List Key := [apiUrlKey, clientIdKey, apiKeyKey]

/-- The timeout that is set goes past the checks: it is an integer beyond the finite numbers, or it
is no number and cannot be shown. -/
def UnusableTimeout (env : Environment) (file : List (Yaml.Value × Yaml.Value)) : Prop :=
  ∃ v, find? env file timeoutKey = some v ∧
    ((∃ n, v = .int n ∧ Decimal.ofInt? n = none) ∨
      (number? v = .ok none ∧ v.isWritable = false))

/-- A text that is set cannot be shown. -/
def UnusableText (env : Environment) (file : List (Yaml.Value × Yaml.Value)) : Prop :=
  ∃ key ∈ textKeys, ∃ v, find? env file key = some v ∧ v.isWritable = false

theorem timeout_escapes_iff {env : Environment} {file : List (Yaml.Value × Yaml.Value)} :
    Escapes ((find? env file timeoutKey).mapM timeoutOf) ↔ UnusableTimeout env file := by
  unfold UnusableTimeout
  cases find? env file timeoutKey with
  | none => simp [pure, Except.pure]
  | some v => simp [timeoutOf_escapes_iff]

/-- What follows a text is reached unless the text cannot be shown. -/
theorem textOf_bind_escapes_iff {α : Type} {env : Environment}
    {file : List (Yaml.Value × Yaml.Value)} {key : Key} {f : String → Except SettingsFault α}
    {p : Prop} (hf : ∀ s, Escapes (f s) ↔ p) :
    Escapes (textOf env file key >>= f) ↔
      (∃ v, find? env file key = some v ∧ v.isWritable = false) ∨ p := by
  rw [escapes_bind_iff, ← textOf_escapes_iff]
  constructor
  · rintro (h | ⟨s, -, h⟩)
    · exact .inl h
    · exact .inr ((hf s).1 h)
  · rintro (h | h)
    · exact .inl h
    · rcases textOf_eq_ok_or_escapes env file key with ⟨s, hs⟩ | hescapes
      · exact .inr ⟨s, hs, (hf s).2 h⟩
      · exact .inl hescapes

theorem ofValues_escapes_iff {env : Environment} {file : List (Yaml.Value × Yaml.Value)} :
    Escapes (ofValues env file) ↔ UnusableTimeout env file ∨
      ((∃ timeout, (find? env file timeoutKey).mapM timeoutOf = .ok timeout) ∧
        UnusableText env file) := by
  have htexts : ∀ timeout : Option Float,
      Escapes (do
        let apiUrl ← textOf env file apiUrlKey
        let clientId ← textOf env file clientIdKey
        let apiKey ← textOf env file apiKeyKey
        return (⟨apiUrl, clientId, apiKey, timeout⟩ : Settings)) ↔ UnusableText env file := by
    intro timeout
    refine (textOf_bind_escapes_iff fun apiUrl => textOf_bind_escapes_iff fun clientId =>
      textOf_bind_escapes_iff (p := False) fun apiKey =>
        iff_false_intro (not_escapes_ok _)).trans ?_
    simp [UnusableText, textKeys]
  unfold ofValues
  rw [escapes_bind_iff, timeout_escapes_iff]
  simp only [htexts, exists_and_right]

/-- Loading either gives settings or an expected fault, or the fault escapes for one of these
reasons. -/
theorem load_escapes_iff (reader : Yaml.Reader) (files : Files) (home : String)
    (env : Environment) (path : Option String) :
    Escapes (load reader files home env path) ↔ Unreadable reader files (place home path) ∨
      ∃ file, entries reader files home path = .ok file ∧ (UnusableTimeout env file ∨
        ((∃ timeout, (find? env file timeoutKey).mapM timeoutOf = .ok timeout) ∧
          UnusableText env file)) := by
  unfold load
  rw [escapes_bind_iff, entries_escapes_iff]
  simp only [ofValues_escapes_iff]

/-- Every text has a value for the reader, or is malformed. -/
def ReadsOrRefuses (reader : Yaml.Reader) : Prop :=
  ∀ s refusal, reader.read s = .error refusal → ∃ why, refusal = .malformed why

/-- A reader for which every document is empty. -/
def emptyReader : Yaml.Reader := ⟨fun _ => .ok .null, fun _ => none⟩

/-- A settings file of one byte that begins no character: nothing stands before the byte, so no
settings are loaded, and no expected fault says why. -/
theorem not_forall_load :
    ¬ ∀ (reader : Yaml.Reader) (files : Files) (home : String) (env : Environment)
      (path : Option String), ReadsOrRefuses reader →
        (∃ settings, load reader files home env path = .ok settings) ∨
          ∃ fault, load reader files home env path = .error fault ∧ fault.isExpected = true := by
  intro hall
  have hdecode : Text.Utf8.decode [0xFF] = .error ⟨0, 1, 0xFF, .startByte⟩ := by
    rw [Text.Utf8.decode, Text.Utf8.decodeFrom, Text.Utf8.next_other (by decide) (by decide)]
  have hload : load emptyReader (fun _ => .file [0xFF]) "home" [] (some "c.yaml") =
      .error (.undecodable ⟨0, 1, 0xFF, .startByte⟩) := by
    have hparts : Text.Utf8.decodeParts partSize [] [0xFF] =
        .error ⟨0, 1, 0xFF, .startByte⟩ := by
      rw [Text.Utf8.decodeParts]
      simp [hdecode]
    rw [load, entries_eq]
    simp only [readFile, hparts, emptyReader]
    rfl
  have hreads : ReadsOrRefuses emptyReader := by
    intro s refusal h
    simp [emptyReader] at h
  rcases hall emptyReader (fun _ => .file [0xFF]) "home" [] (some "c.yaml") hreads with
    ⟨s, hs⟩ | ⟨f, hf, he⟩
  · simp [hload] at hs
  · rw [hload] at hf
    obtain rfl := Except.error.inj hf
    simp [SettingsFault.isExpected] at he

end HttpScript.Settings
