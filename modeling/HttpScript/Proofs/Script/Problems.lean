import HttpScript.Proofs.Json.Numbers
import HttpScript.Proofs.Run.Body
import HttpScript.Proofs.Script.Arguments
import HttpScript.Proofs.Script.Provenance

/-!
# What a script that was read leaves to check

The reader takes only the five methods, a url for each of them, numbers without a sign and bodies
whose text is JSON. Three things remain that can be wrong with a request: an expected status out of
range, the name of a capture, and a number that is too large to be finite. Once they are checked,
every request can be carried out.
-/
namespace HttpScript

namespace Line

variable {l : Line}

theorem not_mem_of_mem_scriptLines {text : List Char} (h : l ∈ scriptLines text) :
    '\n' ∉ l.source := by
  obtain ⟨s, hs, hsource⟩ := source_of_mem_numberLines h
  rw [Text.splitOn_eq] at hs
  intro hmem
  rw [hsource] at hmem
  exact Text.not_mem_of_mem_splitOn hs ((List.rdropWhile_prefix _ _).subset hmem)

end Line

/-! ### What the reader ensures -/

/-- A body that the reader takes has only integers that it takes, too. -/
theorem hasShortIntegers_of_readBody {first : Line} {more : List Line} {v : Json}
    (h : readBody first more = .ok v) : v.HasShortIntegers := by
  obtain ⟨r, hreads, -⟩ := Json.read_eq_ok_iff.1 (readBody_eq_ok_iff.1 h)
  exact hreads.hasShortIntegers

/-- What the reader ensures of each request. -/
structure Request.IsRead (r : Request) : Prop where
  method : ∃ m : Method, r.method = m.name
  url : ∃ c ∈ r.url.toList, Text.isBlank c = false
  body : ∀ v ∈ r.body, v.HasShortIntegers
  waitMs : 0 ≤ r.waitMs
  captures : ∀ f ∈ r.captures, '\n' ∉ f.name.toList

theorem Origin.Yields.isRead {o : Origin} {r : Request} (h : o.Yields r)
    (hlines : ∀ l ∈ o.lines, '\n' ∉ l.source) : r.IsRead where
  method := by
    obtain ⟨-, -, m, -, -, -, hmethod, -⟩ := h.head
    exact ⟨m, hmethod⟩
  url := by
    obtain ⟨w, argument, m, hshape, -, hne, -, hurl⟩ := h.head
    obtain ⟨c, t, rfl⟩ := List.exists_cons_of_ne_nil hne
    obtain ⟨rest, htrim, -⟩ := Line.argument_of_shape hshape
    refine ⟨c, by simp [hurl], Text.head_trim (s := rest) ?_⟩
    rw [← htrim]
    rfl
  body := by
    intro v hv
    rw [h.body] at hv
    obtain ⟨c, hc, hvalue⟩ := List.mem_filterMap.1 (List.mem_of_getLast? hv)
    cases h.read c hc with
    | body shape opens continues reads =>
      obtain rfl := Option.some.inj hvalue
      exact hasShortIntegers_of_readBody reads
    | header | save | http | wait => cases hvalue
  waitMs := by
    rw [h.waitMs]
    exact Int.natCast_nonneg _
  captures := by
    intro f hf
    rw [h.captures] at hf
    obtain ⟨c, hc, hcapture⟩ := List.mem_filterMap.1 hf
    have hread := h.read c hc
    cases hread with
    | @save l f' w argument shape word value =>
      obtain rfl := Option.some.inj hcapture
      have hl : l ∈ o.lines :=
        List.mem_cons_of_mem _ (List.mem_flatMap.2 ⟨_, hc, List.mem_singleton_self l⟩)
      exact fun hmem => hlines l hl
        (((Line.infix_name value).trans (Line.infix_of_shape shape)).subset hmem)
    | header | http | wait | body => cases hcapture

theorem isRead_of_readScript {text : List Char} {requests : List Request}
    (h : readScript text = .ok requests) : ∀ r ∈ requests, r.IsRead := by
  intro r hr
  obtain ⟨origins, hshares⟩ := exists_sharesOut h
  obtain ⟨o, ho, hyields⟩ := hshares.exists_origin hr
  exact hyields.isRead fun l hl => Line.not_mem_of_mem_scriptLines (hshares.mem_lines ho hl).1

/-! ### What remains to be checked -/

theorem isKnownMethod_name (m : Method) : isKnownMethod m.name = true := by
  cases m <;> decide

/-- Without a line break, only an identifier is the name of a capture. -/
theorem isCaptureName_eq {name : String} (h : '\n' ∉ name.toList) :
    isCaptureName name = Template.isName name.toList := by
  have hlast : (name.toList.getLast? == some '\n') = false := by
    simp only [beq_eq_false_iff_ne]
    exact fun hlast => h (List.mem_of_getLast? hlast)
  simp only [isCaptureName, hlast, Bool.false_and, Bool.or_false]

theorem mem_bodyFlaws_iff {body : Option Json} (h : ∀ v ∈ body, v.HasShortIntegers) (flaw : Flaw) :
    flaw ∈ ((body.bind bodyProblem?).map Flaw.body).toList ↔
      flaw = .body .outOfRange ∧ ∃ v ∈ body, ¬ v.EveryNumber Json.IsShort Json.IsFinite := by
  cases body with
  | none => simp
  | some v =>
    rw [Option.bind_some]
    rcases bodyProblem?_cases (h v rfl) with ⟨hnone, hfinite⟩ | ⟨hsome, hfinite⟩
    · simp [hnone, hfinite]
    · simp [hsome, hfinite]

theorem mem_statusFlaws_iff (n : Int) (flaw : Flaw) :
    flaw ∈ (if n != 0 && !(100 ≤ n && n ≤ 599) then [Flaw.status n] else []) ↔
      flaw = .status n ∧ n ≠ 0 ∧ ¬ (100 ≤ n ∧ n ≤ 599) := by
  have hrange : (n != 0 && !(100 ≤ n && n ≤ 599)) = true ↔ n ≠ 0 ∧ ¬ (100 ≤ n ∧ n ≤ 599) := by
    rw [Bool.and_eq_true, bne_iff_ne, Bool.not_eq_true', ← Bool.not_eq_true, Bool.and_eq_true,
      decide_eq_true_eq, decide_eq_true_eq]
  rw [← hrange]
  split
  · rename_i hflaw
    rw [List.mem_singleton, and_iff_left hflaw]
  · rename_i hflaw
    exact ⟨fun h => absurd h List.not_mem_nil, fun h => absurd h.2 hflaw⟩

theorem mem_captureFlaws_iff {captures : List Field} (h : ∀ f ∈ captures, '\n' ∉ f.name.toList)
    (flaw : Flaw) :
    flaw ∈ (captures.filter (!isCaptureName ·.name)).map (Flaw.captureName ·.name) ↔
      ∃ f ∈ captures, Template.isName f.name.toList = false ∧ flaw = .captureName f.name := by
  simp only [List.mem_map, List.mem_filter, Bool.not_eq_true']
  constructor
  · rintro ⟨f, ⟨hf, hname⟩, rfl⟩
    exact ⟨f, hf, by rwa [isCaptureName_eq (h f hf)] at hname, rfl⟩
  · rintro ⟨f, hf, hname, rfl⟩
    exact ⟨f, ⟨hf, by rwa [isCaptureName_eq (h f hf)]⟩, rfl⟩

/-- Of the flaws that a request may have, the reader leaves three. -/
theorem Request.IsRead.mem_flaws_iff {r : Request} (h : r.IsRead) (flaw : Flaw) :
    flaw ∈ r.flaws ↔
      (flaw = .body .outOfRange ∧ ∃ v ∈ r.body, ¬ v.EveryNumber Json.IsShort Json.IsFinite) ∨
      (flaw = .status r.expectedStatus ∧ r.expectedStatus ≠ 0 ∧
        ¬ (100 ≤ r.expectedStatus ∧ r.expectedStatus ≤ 599)) ∨
      ∃ f ∈ r.captures, Template.isName f.name.toList = false ∧ flaw = .captureName f.name := by
  obtain ⟨m, hm⟩ := h.method
  have hmethod : isKnownMethod r.method = true := hm ▸ isKnownMethod_name m
  have hurl : (Text.trim r.url.toList).isEmpty = false := by
    obtain ⟨c, hc, hsolid⟩ := h.url
    rw [List.isEmpty_eq_false_iff]
    intro hnil
    rw [Text.trim_eq_nil_iff.1 hnil c hc] at hsolid
    cases hsolid
  rw [Request.flaws, hmethod, hurl, if_pos rfl, if_neg (by simp), if_neg (Int.not_lt.2 h.waitMs),
    List.append_nil, List.nil_append, List.nil_append, List.mem_append, List.mem_append,
    mem_bodyFlaws_iff h.body, mem_statusFlaws_iff, mem_captureFlaws_iff h.captures, or_assoc]

/-- The problems from a step on are the flaws of the requests, each at its step. -/
theorem mem_problemsFrom_iff {p : Problem} {number : Nat} {requests : List Request} :
    p ∈ problemsFrom number requests ↔ ∃ i r, requests[i]? = some r ∧
      ∃ flaw ∈ r.flaws, p = .step (number + i) r.line flaw := by
  induction requests generalizing number with
  | nil => simp [problemsFrom]
  | cons r rest ih =>
    rw [problemsFrom, List.mem_append, ih]
    constructor
    · rintro (h | ⟨i, r', hr', flaw, hflaw, rfl⟩)
      · obtain ⟨flaw, hflaw, rfl⟩ := List.mem_map.1 h
        exact ⟨0, r, rfl, flaw, hflaw, rfl⟩
      · exact ⟨i + 1, r', hr', flaw, hflaw, by rw [Nat.add_right_comm, Nat.add_assoc]⟩
    · rintro ⟨i, r', hr', flaw, hflaw, rfl⟩
      cases i with
      | zero =>
        obtain rfl := Option.some.inj hr'
        exact .inl (List.mem_map_of_mem hflaw)
      | succ i =>
        exact .inr ⟨i, r', hr', flaw, hflaw, by rw [Nat.add_right_comm, Nat.add_assoc]⟩

/-- The problems of a step are the flaws of its request. -/
theorem mem_problems_iff {requests : List Request} {i : Nat} {r : Request}
    (hr : requests[i]? = some r) (flaw : Flaw) :
    .step (i + 1) r.line flaw ∈ problems requests ↔ flaw ∈ r.flaws := by
  have hne : requests.isEmpty = false := by
    cases requests with
    | nil => cases hr
    | cons => rfl
  rw [problems, hne, if_neg Bool.false_ne_true, mem_problemsFrom_iff]
  constructor
  · rintro ⟨j, r', hr', flaw', hflaw, heq⟩
    obtain ⟨hstep, -, rfl⟩ := Problem.step.inj heq
    obtain rfl : i = j := by omega
    rw [hr] at hr'
    obtain rfl := Option.some.inj hr'
    exact hflaw
  · exact fun hflaw => ⟨i, r, hr, flaw, hflaw, by rw [Nat.add_comm]⟩

theorem problemsFrom_eq_nil_iff {number : Nat} {requests : List Request} :
    problemsFrom number requests = [] ↔ ∀ r ∈ requests, r.flaws = [] := by
  induction requests generalizing number with
  | nil => simp [problemsFrom]
  | cons r rest ih => simp [problemsFrom, ih]

/-- Without problems there is a request, and no request has a flaw. -/
theorem problems_eq_nil_iff {requests : List Request} :
    problems requests = [] ↔ requests ≠ [] ∧ ∀ r ∈ requests, r.flaws = [] := by
  unfold problems
  cases requests with
  | nil => simp
  | cons r rest =>
    rw [List.isEmpty_cons, if_neg (by simp), problemsFrom_eq_nil_iff]
    simp

/-- The problems that a script can have after it was read. -/
inductive Problem.Remains : Problem → Prop
  | noSteps : Remains .noSteps
  | body (number : Nat) (line : Int) : Remains (.step number line (.body .outOfRange))
  | status (number : Nat) (line : Int) {n : Int} (unset : n ≠ 0) (range : ¬ (100 ≤ n ∧ n ≤ 599)) :
      Remains (.step number line (.status n))
  | captureName (number : Nat) (line : Int) {name : String} (bad : ¬ IsIdentifier name.toList) :
      Remains (.step number line (.captureName name))

/-- A text of JSON, without a name for a number that is not finite. -/
def IsStrictJson (text : String) : Prop := ∃ v, Json.read .refuse text.toList = .ok v

/-- A request that can be carried out, whatever the context of its run. -/
structure Request.IsExecutable (r : Request) : Prop where
  method : r.method ∈ ["GET", "POST", "PUT", "DELETE", "PATCH"]
  url : ∃ c ∈ r.url.toList, Text.isBlank c = false
  expectedStatus : r.expectedStatus = 0 ∨ 100 ≤ r.expectedStatus ∧ r.expectedStatus ≤ 599
  waitMs : 0 ≤ r.waitMs
  captures : ∀ f ∈ r.captures, IsIdentifier f.name.toList
  body : ∀ ctx out, prepare r ctx = .ok out →
    out.body.isSome = r.body.isSome ∧ ∀ text ∈ out.body, IsStrictJson text

/-- Whatever the variables hold, a body of finite numbers is sent as strict JSON. -/
theorem isStrictJson_of_prepare {r : Request}
    (hfinite : ∀ v ∈ r.body, v.EveryNumber Json.IsShort Json.IsFinite) {ctx : Context}
    {out : Outgoing} (hout : prepare r ctx = .ok out) :
    out.body.isSome = r.body.isSome ∧ ∀ text ∈ out.body, IsStrictJson text := by
  cases hbody : r.body with
  | none =>
    have hexpand := expandBody_of_prepare hout
    rw [hbody] at hexpand
    have hnone := Except.ok.inj hexpand
    simp [← hnone]
  | some v =>
    obtain ⟨w, hw, htext⟩ := body_of_prepare hbody hout
    obtain ⟨rfl, -⟩ := expandJson_ok v hw
    refine ⟨by rw [htext]; rfl, fun text hmem => ?_⟩
    rw [htext] at hmem
    obtain rfl := Option.some.inj hmem
    rw [IsStrictJson, Json.render, String.toList_ofList]
    exact Json.exists_read_write .refuse Json.compact_isReadable
      ((hfinite v hbody).mapStrings _)

/-- A request without flaws, of those that were read, can be carried out. -/
theorem Request.IsRead.isExecutable {r : Request} (h : r.IsRead) (hflaws : r.flaws = []) :
    r.IsExecutable where
  method := by
    obtain ⟨m, hm⟩ := h.method
    rw [hm]
    cases m <;> decide
  url := h.url
  expectedStatus := by
    by_contra hrange
    have hflaw := (h.mem_flaws_iff (.status r.expectedStatus)).2
      (.inr (.inl ⟨rfl, not_or.1 hrange⟩))
    rw [hflaws] at hflaw
    cases hflaw
  waitMs := h.waitMs
  captures := by
    intro f hf
    rw [← isName_iff]
    by_contra hname
    have hflaw := (h.mem_flaws_iff (.captureName f.name)).2
      (.inr (.inr ⟨f, hf, by simpa using hname, rfl⟩))
    rw [hflaws] at hflaw
    cases hflaw
  body := by
    intro ctx out hout
    refine isStrictJson_of_prepare (fun v hv => ?_) hout
    by_contra hfinite
    have hflaw := (h.mem_flaws_iff (.body .outOfRange)).2
      (.inl ⟨rfl, v, hv, hfinite⟩)
    rw [hflaws] at hflaw
    cases hflaw

/-- A script that was read and has no problem can be carried out; the problems that it can have are
of four kinds. -/
theorem problems_of_readScript {text : List Char} {requests : List Request}
    (h : readScript text = .ok requests) :
    (∀ p ∈ problems requests, p.Remains) ∧
      (problems requests = [] → requests ≠ [] ∧ ∀ r ∈ requests, r.IsExecutable) := by
  have hread := isRead_of_readScript h
  constructor
  · intro p hp
    unfold problems at hp
    split at hp
    · rw [List.mem_singleton.1 hp]
      exact .noSteps
    · obtain ⟨i, r, hr, flaw, hflaw, rfl⟩ := mem_problemsFrom_iff.1 hp
      rcases ((hread r (List.mem_of_getElem? hr)).mem_flaws_iff flaw).1 hflaw with
        ⟨rfl, -⟩ | ⟨rfl, hunset, hrange⟩ | ⟨f, -, hname, rfl⟩
      · exact .body (1 + i) r.line
      · exact .status (1 + i) r.line hunset hrange
      · exact .captureName (1 + i) r.line (by simp [← isName_iff, hname])
  · intro hnone
    obtain ⟨hne, hflaws⟩ := problems_eq_nil_iff.1 hnone
    exact ⟨hne, fun r hr => (hread r hr).isExecutable (hflaws r hr)⟩

/-- A script with a variable in a body and a reply that sets one. -/
def usersScript : List Char :=
  "post /users\nhttp 201\nwait 5\nsave user_id .id\n[\"\x7b\x7b.name\x7d\x7d\", 7]".toList

def usersRequest : Request where
  method := "POST"
  url := "/users"
  body := some (.array [.string "\x7b\x7b.name\x7d\x7d", .int 7])
  expectedStatus := 201
  captures := [⟨"user_id", ".id"⟩]
  waitMs := 5
  line := 1

/-- The same request with a status that no reply has and a name that no template can hold. -/
def flawedRequest : Request :=
  { usersRequest with expectedStatus := 99, captures := [⟨"user-id", ".id"⟩] }

theorem problems_of_usersScript :
    readScript usersScript = .ok [usersRequest] ∧ usersRequest.IsExecutable ∧
      problems [flawedRequest] = [.step 1 1 (.status 99), .step 1 1 (.captureName "user-id")] := by
  have hread : readScript usersScript = .ok [usersRequest] := by cbv
  have hnone : problems [usersRequest] = [] := by decide +kernel
  have hflawed : problems [flawedRequest] =
      [.step 1 1 (.status 99), .step 1 1 (.captureName "user-id")] := by decide +kernel
  obtain ⟨-, hexecutable⟩ := problems_of_readScript hread
  exact ⟨hread, (hexecutable hnone).2 usersRequest List.mem_cons_self, hflawed⟩

end HttpScript
