import HttpScript.Proofs.Json.NumberLiterals
import HttpScript.Proofs.Script.LiteralErrors
import HttpScript.Proofs.Script.BodyCheck
import HttpScript.Proofs.Script.Problems

/-!
# The numbers in the bodies of a script

No number in a body is undefined, and none comes from the name of a non-finite number: such a name
is refused while the script is read. A literal beyond the largest finite number is no such name. It
is read as an infinity, and the body that holds it is a problem of the script.
-/
namespace HttpScript

/-! ### Bodies of requests -/

/-- The body of a request was read from lines of the script. -/
theorem exists_readBody {text : List Char} {requests : List Request}
    (h : readScript text = .ok requests) {r : Request} (hr : r ∈ requests) {v : Json}
    (hv : v ∈ r.body) :
    ∃ first more, (∀ l ∈ first :: more, l ∈ scriptLines text) ∧ readBody first more = .ok v := by
  obtain ⟨origins, hshares⟩ := exists_sharesOut h
  obtain ⟨o, ho, hyields⟩ := hshares.exists_origin hr
  rw [hyields.body] at hv
  obtain ⟨c, hc, hvalue⟩ := List.mem_filterMap.1 (List.mem_of_getLast? hv)
  have hlines : ∀ l ∈ c.lines, l ∈ scriptLines text := fun l hl =>
    (hshares.mem_lines ho (List.mem_cons_of_mem _ (List.mem_flatMap.2 ⟨c, hc, hl⟩))).1
  cases hyields.read c hc with
  | body shape opens continues reads =>
    obtain rfl := Option.some.inj hvalue
    exact ⟨_, _, hlines, reads⟩
  | header | save | http | wait => cases hvalue

/-- The numbers of a body come from literals at places of its lines. -/
theorem everyNumber_of_readBody {first : Line} {more : List Line} {v : Json}
    (h : readBody first more = .ok v) :
    v.EveryNumber (fun _ => True) fun x => ∃ (p : Place (first :: more)) (parts : Json.NumberParts),
      Json.ValueAt p.left .value (Json.skipSpace (bodyText first more)) ∧
      Json.numberParts? p.left = some parts ∧ parts.IsReadAs x := by
  obtain ⟨r, hreads, -⟩ := Json.read_eq_ok_iff.1 (readBody_eq_ok_iff.1 h)
  refine hreads.everyNumber.mono (fun _ => id) ?_
  rintro x ⟨left, parts, hplace, hparts, hvalue⟩
  obtain ⟨before, htext⟩ := hplace.suffix.trans (Json.skipSpace_suffix _)
  obtain ⟨p, -, rfl⟩ := exists_place htext.symm
  exact ⟨p, parts, hplace, hparts, Json.NumberParts.isReadAs_of_value hvalue⟩

/-! ### Problems -/

theorem everyNumber_iff {v : Json} (h : v.HasShortIntegers) :
    v.EveryNumber (fun _ => True) Json.IsFinite ↔ v.EveryNumber Json.IsShort Json.IsFinite := by
  constructor
  · intro hfinite
    exact h.isFinite_of_holds fun x hx => hx.isFinite hfinite
  · exact fun hfinite => hfinite.mono (fun _ _ => trivial) fun _ => id

/-- The check reports the bodies with a number that is not finite. -/
theorem Request.IsRead.outOfRange_mem_flaws_iff {r : Request} (h : r.IsRead) :
    .body .outOfRange ∈ r.flaws ↔
      ∃ v ∈ r.body, ¬ v.EveryNumber (fun _ => True) Json.IsFinite := by
  rw [h.mem_flaws_iff]
  constructor
  · rintro (⟨-, v, hv, hfinite⟩ | ⟨hflaw, -⟩ | ⟨f, -, -, hflaw⟩)
    · exact ⟨v, hv, mt (everyNumber_iff (h.body v hv)).1 hfinite⟩
    · cases hflaw
    · cases hflaw
  · rintro ⟨v, hv, hfinite⟩
    exact .inl ⟨rfl, v, hv, mt (everyNumber_iff (h.body v hv)).2 hfinite⟩

/-- In a script that was read, no literal of a non-finite number stands as a value in a body. The
numbers of the bodies come from decimal literals; none is undefined, and exactly those beyond the
largest finite number are infinite. The steps whose bodies hold such a number are reported. -/
theorem numbers_of_readScript {text : List Char} {requests : List Request}
    (h : readScript text = .ok requests) :
    (∀ first more, IsBody (scriptLines text) first more → ∀ (p : Place (first :: more))
      (which : Json.NonFinite), Json.ValueAt p.left .value (Json.skipSpace (bodyText first more)) →
        ¬ p.Holds which.literal.toList) ∧
    (∀ r ∈ requests, ∀ v ∈ r.body, ∃ first more,
      (∀ l ∈ first :: more, l ∈ scriptLines text) ∧ readBody first more = .ok v ∧
      v.EveryNumber (fun _ => True) fun x =>
        ∃ (p : Place (first :: more)) (parts : Json.NumberParts),
          Json.ValueAt p.left .value (Json.skipSpace (bodyText first more)) ∧
          Json.numberParts? p.left = some parts ∧ parts.IsReadAs x) ∧
    ∀ i r, requests[i]? = some r →
      (.step (i + 1) r.line (.body .outOfRange) ∈ problems requests ↔
        ∃ v ∈ r.body, ¬ v.EveryNumber (fun _ => True) Json.IsFinite) := by
  refine ⟨fun first more hbody p which hplace hholds => ?_, fun r hr v hv => ?_, fun i r hr => ?_⟩
  · have hrefused := Json.read_eq_nonFinite_iff.2 ⟨hholds, hplace⟩
    have herror : readScript text = _ :=
      hbody.readLines_eq (readBody_eq_error_iff.2 ⟨_, hrefused, rfl⟩)
    rw [h] at herror
    cases herror
  · obtain ⟨first, more, hlines, hread⟩ := exists_readBody h hr hv
    exact ⟨first, more, hlines, hread, everyNumber_of_readBody hread⟩
  · rw [mem_problems_iff hr]
    exact (isRead_of_readScript h r (List.mem_of_getElem? hr)).outOfRange_mem_flaws_iff

/-- A body with a finite number and one that lies beyond the largest. -/
def overflowScript : List Char := "post /x\n[2.5, -1e999]".toList

def overflowRequest : Request where
  method := "POST"
  url := "/x"
  body := some (.array [.float 2.5, .float (-(1.0 / 0.0))])
  line := 1

theorem readScript_overflowScript : readScript overflowScript = .ok [overflowRequest] := by
  with_unfolding_all rfl

theorem not_everyNumber_overflow : ¬ (Json.array [.float 2.5, .float (-(1.0 / 0.0))]).EveryNumber
    (fun _ => True) Json.IsFinite := by
  intro h
  cases h with
  | array items =>
    cases items (.float (-(1.0 / 0.0))) (by simp) with
    | float holds => exact absurd holds (by unfold Json.IsFinite; decide +kernel)

theorem numbers_of_overflowScript :
    readScript overflowScript = .ok [overflowRequest] ∧
      (∃ first more, ∃ (p : Place (first :: more)) (parts : Json.NumberParts),
        Json.numberParts? p.left = some parts ∧ Decimal.overflowBound ≤ parts.magnitude) ∧
      .step 1 1 (.body .outOfRange) ∈ problems [overflowRequest] := by
  obtain ⟨-, hnumbers, hreports⟩ := numbers_of_readScript readScript_overflowScript
  refine ⟨readScript_overflowScript, ?_,
    (hreports 0 overflowRequest rfl).2 ⟨_, rfl, not_everyNumber_overflow⟩⟩
  obtain ⟨first, more, -, -, hevery⟩ := hnumbers overflowRequest List.mem_cons_self _ rfl
  cases hevery with
  | array items =>
    cases items (.float (-(1.0 / 0.0))) (by simp) with
    | float holds =>
      obtain ⟨p, parts, -, hparts, hread⟩ := holds
      exact ⟨first, more, p, parts, hparts, hread.isInf_iff.1 (by decide +kernel)⟩

/-- A script may be read although a number in it is not finite. -/
theorem not_forall_isFinite_of_readScript :
    ¬ ∀ (text : List Char) (requests : List Request), readScript text = .ok requests →
      ∀ r ∈ requests, ∀ v ∈ r.body, v.EveryNumber (fun _ => True) Json.IsFinite := by
  intro h
  exact not_everyNumber_overflow
    (h _ _ readScript_overflowScript _ (List.mem_singleton_self _) _ rfl)

end HttpScript
