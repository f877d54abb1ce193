import HttpScript.Http.Session
import HttpScript.Proofs.Run.Message
import Mathlib

/-!
# Header lines on the wire

Headers are grouped by their names, whatever the letter case: a group takes all values of its name
out of what comes later. So every header of a message has its line, in order among those of its
name, and a header of the session stays only when the message has none of its name.
-/
namespace HttpScript

@[simp] theorem sameIgnoringCase_refl (a : String) : Text.sameIgnoringCase a a = true :=
  sameIgnoringCase_iff.2 rfl

theorem sameIgnoringCase_comm (a b : String) :
    Text.sameIgnoringCase a b = Text.sameIgnoringCase b a := by
  rw [Bool.eq_iff_iff, sameIgnoringCase_iff, sameIgnoringCase_iff, eq_comm]

/-- The headers with a name, whatever its letter case. -/
def named (name : String) (headers : List Header) : List Header :=
  headers.filter fun h => Text.sameIgnoringCase h.1 name

/-- The values under a name, in order. -/
def valuesOf (name : String) (headers : List Header) : List String :=
  (named name headers).map (·.2)

/-- A header with a name is among others. -/
def HasName (name : String) (headers : List Header) : Prop :=
  ∃ h ∈ headers, Text.sameIgnoringCase h.1 name = true

instance (name : String) (headers : List Header) : Decidable (HasName name headers) :=
  inferInstanceAs (Decidable (∃ h ∈ headers, _))

/-- Headers under the spelling of the first of them. -/
def respelled : List Header → List Header
  | [] => []
  | h :: rest => h :: rest.map fun o => (h.1, o.2)

@[simp] theorem named_append (name : String) (a b : List Header) :
    named name (a ++ b) = named name a ++ named name b := List.filter_append _ _

@[simp] theorem valuesOf_append (name : String) (a b : List Header) :
    valuesOf name (a ++ b) = valuesOf name a ++ valuesOf name b := by
  rw [valuesOf, named_append, List.map_append]
  rfl

theorem named_eq_nil_iff {name : String} {headers : List Header} :
    named name headers = [] ↔ ¬ HasName name headers := by
  simp [named, HasName]

theorem map_snd_respelled (headers : List Header) :
    (respelled headers).map (·.2) = headers.map (·.2) := by
  cases headers with
  | nil => rfl
  | cons h rest => simp [respelled]

section

variable {name : String} {h : Header} {headers : List Header}

theorem named_cons_of_same (hsame : Text.sameIgnoringCase h.1 name = true) :
    named name (h :: headers) = h :: named name headers := List.filter_cons_of_pos hsame

theorem named_cons_of_not_same (hsame : Text.sameIgnoringCase h.1 name = false) :
    named name (h :: headers) = named name headers := List.filter_cons_of_neg (by simp [hsame])

/-- Spellings of a name find the same headers. -/
theorem named_congr {name name' : String} (hsame : Text.sameIgnoringCase name' name = true) :
    named name headers = named name' headers := by
  simp only [named, Text.sameIgnoringCase, sameIgnoringCase_iff.1 hsame]

theorem hasName_congr {name name' : String} (hsame : Text.sameIgnoringCase name' name = true) :
    HasName name' headers ↔ HasName name headers := by
  simp only [HasName, Text.sameIgnoringCase, sameIgnoringCase_iff.1 hsame]

theorem fst_of_mem_respelled {o : Header} (ho : o ∈ respelled (h :: headers)) : o.1 = h.1 := by
  obtain rfl | ho := List.mem_cons.1 ho
  · rfl
  · obtain ⟨o', -, rfl⟩ := List.mem_map.1 ho
    rfl

theorem named_respelled_of_same (hsame : Text.sameIgnoringCase h.1 name = true) :
    named name (respelled (h :: headers)) = respelled (h :: headers) :=
  List.filter_eq_self.2 fun _ ho => (fst_of_mem_respelled ho).symm ▸ hsame

theorem named_respelled_of_not_same (hsame : Text.sameIgnoringCase h.1 name = false) :
    named name (respelled (h :: headers)) = [] :=
  List.filter_eq_nil_iff.2 fun _ ho => by rw [fst_of_mem_respelled ho, hsame]; simp

theorem named_others_self :
    named name (headers.filter fun o => !Text.sameIgnoringCase o.1 name) = [] := by
  simp [named]

theorem named_others_of_not_same {other : String}
    (hsame : Text.sameIgnoringCase other name = false) :
    named name (headers.filter fun o => !Text.sameIgnoringCase o.1 other) = named name headers := by
  rw [named, named, List.filter_filter]
  refine List.filter_congr fun o _ => ?_
  cases ho : Text.sameIgnoringCase o.1 name with
  | false => rfl
  | true =>
    have hother : Text.sameIgnoringCase o.1 other = false := by
      rw [Bool.eq_false_iff, ne_eq, sameIgnoringCase_iff] at hsame ⊢
      rw [sameIgnoringCase_iff.1 ho]
      exact Ne.symm hsame
    rw [hother]
    rfl

end

/-! ### Groups -/

namespace HeaderGroups

/-- A group takes the values of its name out of what comes, and leaves the rest to those after it. -/
theorem foldl_add (g : HeaderGroup) (groups : HeaderGroups) (headers : List Header) :
    headers.foldl (fun groups h => add h.1 h.2 groups) (g :: groups) =
      ⟨g.name, g.values ++ valuesOf g.name headers⟩ ::
        (headers.filter fun h => !Text.sameIgnoringCase h.1 g.name).foldl
          (fun groups h => add h.1 h.2 groups) groups := by
  induction headers generalizing g groups with
  | nil => simp [valuesOf, named]
  | cons h rest ih =>
    rw [List.foldl_cons, add, sameIgnoringCase_comm]
    cases hsame : Text.sameIgnoringCase h.1 g.name with
    | true =>
      rw [if_pos rfl, ih]
      simp [valuesOf, named, hsame]
    | false =>
      rw [if_neg (by simp), ih]
      simp [valuesOf, named, hsame]

/-- The lines of a group stand before those of the other names. -/
theorem lines_ofList_cons (h : Header) (rest : List Header) :
    lines (ofList (h :: rest)) = respelled (h :: named h.1 rest) ++
      lines (ofList (rest.filter fun o => !Text.sameIgnoringCase o.1 h.1)) := by
  have hgroups : ofList (h :: rest) = ⟨h.1, h.2 :: valuesOf h.1 rest⟩ ::
      ofList (rest.filter fun o => !Text.sameIgnoringCase o.1 h.1) :=
    foldl_add ⟨h.1, [h.2]⟩ [] rest
  rw [hgroups, lines, List.flatMap_cons]
  simp [respelled, valuesOf, lines]

/-- Under each name there is one line for every header, in order. -/
theorem named_lines_ofList (name : String) (headers : List Header) :
    named name (lines (ofList headers)) = respelled (named name headers) := by
  induction hlength : headers.length using Nat.strong_induction_on generalizing headers with
  | _ n ih =>
    cases headers with
    | nil => rfl
    | cons h rest =>
      have hshorter : (rest.filter fun o => !Text.sameIgnoringCase o.1 h.1).length < n := by
        have hle := List.length_filter_le (fun o => !Text.sameIgnoringCase o.1 h.1) rest
        simp only [List.length_cons] at hlength
        omega
      rw [lines_ofList_cons, named_append, ih _ hshorter _ rfl]
      cases hsame : Text.sameIgnoringCase h.1 name with
      | true =>
        -- the first group has the name, and takes all headers with it
        rw [named_respelled_of_same hsame, named_cons_of_same hsame, named_congr hsame,
          named_others_self, named_congr hsame]
        exact List.append_nil _
      | false =>
        rw [named_respelled_of_not_same hsame, named_others_of_not_same hsame,
          named_cons_of_not_same hsame]
        rfl

/-- No line is made up. -/
theorem hasName_of_mem_lines {headers : List Header} {line : Header}
    (hline : line ∈ lines (ofList headers)) : HasName line.1 headers := by
  by_contra hnone
  have hlines := named_lines_ofList line.1 headers
  rw [named_eq_nil_iff.2 hnone] at hlines
  exact named_eq_nil_iff.1 hlines ⟨line, hline, sameIgnoringCase_refl _⟩

end HeaderGroups

/-! ### Headers of a session and of a message -/

/-- Headers of a session that no header of a message takes the place of. -/
def keptHeaders (session own : List Header) : List Header :=
  session.filter fun h => !own.any fun o => Text.sameIgnoringCase h.1 o.1

theorem combineHeaders_eq (session own : List Header) :
    combineHeaders session own = HeaderGroups.ofList (keptHeaders session own ++ own) :=
  List.foldl_append.symm

theorem mem_keptHeaders {session own : List Header} {h : Header} :
    h ∈ keptHeaders session own ↔ h ∈ session ∧ ¬ HasName h.1 own := by
  simp only [keptHeaders, List.mem_filter, HasName, sameIgnoringCase_comm h.1]
  simp

theorem named_keptHeaders_of_hasName {session own : List Header} {name : String}
    (hown : HasName name own) : named name (keptHeaders session own) = [] := by
  rw [named_eq_nil_iff]
  rintro ⟨h, hkept, hsame⟩
  exact (mem_keptHeaders.1 hkept).2 ((hasName_congr hsame).2 hown)

/-- Names that a message has are the message's alone. -/
theorem valuesOf_combineHeaders {session own : List Header} {name : String}
    (hown : HasName name own) :
    valuesOf name (combineHeaders session own).lines = valuesOf name own := by
  rw [combineHeaders_eq, valuesOf, HeaderGroups.named_lines_ofList, map_snd_respelled, named_append,
    named_keptHeaders_of_hasName hown]
  rfl

theorem named_of_mem {headers : List Header} (hdiffer : NamesDiffer headers) {h : Header}
    (hmem : h ∈ headers) : named h.1 headers = [h] := by
  induction headers with
  | nil => cases hmem
  | cons o rest ih =>
    obtain ⟨hothers, hrest⟩ := List.pairwise_cons.1 hdiffer
    obtain rfl | hmem := List.mem_cons.1 hmem
    · have hnone : ¬ HasName h.1 rest := by
        rintro ⟨h', hh', hsame⟩
        rw [sameIgnoringCase_comm, hothers h' hh'] at hsame
        cases hsame
      rw [named_cons_of_same (sameIgnoringCase_refl _), named_eq_nil_iff.2 hnone]
    · rw [named_cons_of_not_same (hothers h hmem), ih hrest hmem]

/-- A header of a session stays if a message has none of its name. -/
theorem named_combineHeaders {session own : List Header} (hdiffer : NamesDiffer session)
    {h : Header} (hmem : h ∈ session) (hown : ¬ HasName h.1 own) :
    named h.1 (combineHeaders session own).lines = [h] := by
  have hkept : named h.1 (keptHeaders session own) = [h] :=
    named_of_mem (hdiffer.filter _) (mem_keptHeaders.2 ⟨hmem, hown⟩)
  rw [combineHeaders_eq, HeaderGroups.named_lines_ofList, named_append, hkept,
    named_eq_nil_iff.2 hown]
  rfl

theorem mem_of_mem_lines {session own : List Header} (hdiffer : NamesDiffer session)
    {line : Header} (hline : line ∈ (combineHeaders session own).lines) :
    HasName line.1 own ∨ line ∈ session := by
  have hsource := hline
  rw [combineHeaders_eq] at hsource
  obtain ⟨h, hh, hsame⟩ := HeaderGroups.hasName_of_mem_lines hsource
  obtain hkept | hown := List.mem_append.1 hh
  · obtain ⟨hsession, hnone⟩ := mem_keptHeaders.1 hkept
    -- the only line of this name is the session's own
    have hlines := named_combineHeaders hdiffer hsession hnone
    have hnamed : line ∈ named h.1 (combineHeaders session own).lines :=
      List.mem_filter.2 ⟨hline, (sameIgnoringCase_comm _ _).trans hsame⟩
    rw [hlines, List.mem_singleton] at hnamed
    exact .inr (hnamed ▸ hsession)
  · exact .inl ⟨h, hown, hsame⟩

/-- The lines of a session and of a message together. -/
structure JoinedLines (session own lines : List Header) : Prop where
  /-- Every header of the message has a line, and no other value stands under its name. -/
  values_own : ∀ name, HasName name own → valuesOf name lines = valuesOf name own
  kept : ∀ h ∈ session, ¬ HasName h.1 own → named h.1 lines = [h]
  nothing_else : ∀ line ∈ lines, HasName line.1 own ∨ line ∈ session

/-! ### Messages -/

/-- The headers that a script gives a request, rendered. -/
def Request.scripted (r : Request) (vars : Variables) : List Header :=
  r.headers.map fun f => (f.name, rendering vars f.value)

/-- Lines with all headers of a request and the usual ones: of these, nothing that a session knows
takes the place, nor does it stand beside them. -/
structure Request.AllSent (r : Request) (ctx : Context) (lines : List Header) : Prop where
  contentType : valuesOf "Content-Type" lines =
    "application/json" :: valuesOf "Content-Type" (r.scripted ctx.vars)
  authorization : valuesOf "Authorization" lines =
    ("Bearer " ++ ctx.token) :: valuesOf "Authorization" (r.scripted ctx.vars)
  others : ∀ name, HasName name (r.scripted ctx.vars) →
    valuesOf name lines = valuesOf name (defaultHeaders ctx.token ++ r.scripted ctx.vars)

theorem valuesOf_defaultHeaders (token : String) :
    valuesOf "Content-Type" (defaultHeaders token) = ["application/json"] ∧
      valuesOf "Authorization" (defaultHeaders token) = ["Bearer " ++ token] := by
  have hnames : Text.sameIgnoringCase "Content-Type" "Authorization" = false := by decide +kernel
  have hnames' := (sameIgnoringCase_comm _ _).trans hnames
  simp [defaultHeaders, valuesOf, named, hnames, hnames']

theorem Request.allSent_of_prepare {r : Request} {ctx : Context} {m : Outgoing}
    (h : prepare r ctx = .ok m) (prepared : List Header) :
    r.AllSent ctx (combineHeaders prepared m.headers).lines := by
  have hheaders : m.headers = defaultHeaders ctx.token ++ r.scripted ctx.vars :=
    headers_of_prepare h
  obtain ⟨hcontentType, hauthorization⟩ := valuesOf_defaultHeaders ctx.token
  have husual : ∀ name value, (name, value) ∈ defaultHeaders ctx.token → HasName name m.headers :=
    fun name value ho =>
      ⟨(name, value), hheaders ▸ List.mem_append_left _ ho, sameIgnoringCase_refl _⟩
  constructor
  · rw [valuesOf_combineHeaders (husual _ "application/json" (by simp [defaultHeaders])), hheaders,
      valuesOf_append, hcontentType]
    rfl
  · rw [valuesOf_combineHeaders (husual _ ("Bearer " ++ ctx.token) (by simp [defaultHeaders])),
      hheaders, valuesOf_append, hauthorization]
    rfl
  · rintro name ⟨o, ho, hsame⟩
    rw [valuesOf_combineHeaders ⟨o, hheaders ▸ List.mem_append_right _ ho, hsame⟩, hheaders]

theorem joinedLines_combineHeaders {session own : List Header} (hdiffer : NamesDiffer session) :
    JoinedLines session own (combineHeaders session own).lines where
  values_own _ hown := valuesOf_combineHeaders hown
  kept _ hmem hown := named_combineHeaders hdiffer hmem hown
  nothing_else _ hline := mem_of_mem_lines hdiffer hline

/-! ### The wire -/

/-- A message on the wire: its header lines, and whether the session made it to follow a redirect. -/
structure WireMessage where
  lines : List Header
  followsRedirect : Bool

/-- A session is relied on to send a delivery with the lines that it was handed, unless it fails
before anything is on the wire. What comes after the delivery follows redirects of the server; such
messages are the session's own. -/
def Session.SendsLines {σ : Type} (session : Session σ) (wire : σ → List WireMessage) : Prop :=
  ∀ d link, let (answer, after) := session.send d link
    (∃ why, answer = .error why ∧ wire after = wire link) ∨
      ∃ others, wire after = wire link ++ ⟨d.headers, false⟩ :: others ∧
        ∀ w ∈ others, w.followsRedirect = true

namespace Client

variable {σ : Type} {c : Client σ} {m : Outgoing} {link : σ}

theorem headers_of_delivery {d : Delivery} (h : c.delivery m link = .ok d) :
    ∃ p, c.session.prepare (.ofList (Text.upper m.method.toList)) m.url
        (m.body.map fun s => Text.Utf8.encode s.toList) link = .ok p ∧
      d.headers = (combineHeaders p.headers.list m.headers).lines := by
  obtain ⟨p, hp, h⟩ := bind_eq_ok_iff.1 h
  obtain ⟨route, -, h⟩ := bind_eq_ok_iff.1 h
  obtain rfl := Except.ok.inj h
  exact ⟨p, hp, rfl⟩

/-- Of a message that is sent, the delivery reaches the wire with its lines. -/
theorem wire_transport {wire : σ → List WireMessage} (hwire : c.session.SendsLines wire)
    (m : Outgoing) (link : σ) :
    (∃ why, (c.transport m link).1 = .error why ∧ wire (c.transport m link).2 = wire link) ∨
      ∃ d others, c.delivery m link = .ok d ∧
        wire (c.transport m link).2 = wire link ++ ⟨d.headers, false⟩ :: others ∧
        ∀ w ∈ others, w.followsRedirect = true := by
  unfold transport
  cases hd : c.delivery m link with
  | error why => exact .inl ⟨_, rfl, rfl⟩
  | ok d =>
    obtain ⟨why, hwhy, hsame⟩ | ⟨others, hadded, hothers⟩ := hwire d link
    · exact .inl ⟨why, by simp [hwhy, Except.map], hsame⟩
    · exact .inr ⟨d, others, rfl, hadded, hothers⟩

end Client

/-- Names are repeated, one of them in another spelling, and one that is always there. -/
def repeating : Request where
  method := "GET"
  url := "http://host/x"
  headers := [⟨"X-Key", "one"⟩, ⟨"x-key", "{{.key}}"⟩, ⟨"AUTHORIZATION", "own"⟩]

/-- A session with headers of its own that keeps what goes onto the wire. The server redirects each
message, and the session follows with its own authorization in the place of the message's. -/
def redirectedSession (headers : List Header) : Session (List WireMessage) where
  prepare method url body _ := .ok ⟨method, url, .ofList headers, body⟩
  route _ _ := .ok {}
  send d wire :=
    let others := d.headers.filter fun h => !Text.sameIgnoringCase h.1 "Authorization"
    (.ok ⟨200, d.url, "", [], none⟩,
      wire ++ [⟨d.headers, false⟩, ⟨others ++ named "Authorization" headers, true⟩])
  post _ wire := (.error "not expected", wire)

end HttpScript
