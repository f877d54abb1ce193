import HttpScript.Login
import HttpScript.Proofs.Json.Numbers
import HttpScript.Proofs.Run.Delivery

/-!
# What a login comes to

One message is posted for a login, unless there is no address for it. There is a token exactly when
the answer is accepted and its text is an object with a member `token` that is not empty. A token is
never empty itself, since every value has a text.
-/
namespace HttpScript

/-! ### Texts of values -/

namespace Decimal

theorem Layout.place_ne_nil (style : Layout) {digits : List Char} (h : digits ≠ []) (point : Int) :
    style.place digits point ≠ [] := by
  obtain ⟨d, ds, rfl⟩ := List.exists_cons_of_ne_nil h
  unfold Layout.place
  split
  · split
    · exact List.cons_ne_nil _ _
    · split <;> simp
  · cases ds <;> exact List.cons_ne_nil _ _

theorem plain_write_ne_empty (x : Float) : plain.write x ≠ "" := by
  unfold Layout.write
  split
  · decide
  · split <;> decide
  · rename_i negative b _
    have hplace := plain.place_ne_nil (@Nat.toDigits_ne_nil b.shortest.digits 10)
    rw [Ne, String.ofList_eq_empty_iff]
    split
    · exact List.cons_ne_nil _ _
    · exact hplace _

end Decimal

theorem toString_int_ne_empty (n : Int) : toString n ≠ "" := by
  rw [Int.toString_eq_repr, Int.repr_eq_if]
  split
  · exact Nat.repr_ne_empty
  · simp

/-- A value that counts as something is not shown as an empty text. -/
theorem Json.display_literal_ne_empty {v : Json} (h : v.isEmpty = false) :
    v.literal.display ≠ "" := by
  cases v with
  | null => cases h
  | bool b =>
    cases b with
    | false => cases h
    | true => decide
  | int n => exact toString_int_ne_empty n
  | float x => exact Decimal.plain_write_ne_empty x
  | string s =>
    rintro rfl
    cases h
  | array items => simp [literal, Text.Literal.display, Text.Literal.write]
  | object members => simp [literal, Text.Literal.display, Text.Literal.write]

namespace Login

/-! ### The message -/

/-- The address of a login is that of the server, without the slashes at its end, and the path. -/
theorem address_eq (apiUrl : String) :
    ∃ base slashes, apiUrl.toList = base ++ slashes ∧ (∀ c ∈ slashes, c = '/') ∧
      base.getLast? ≠ some '/' ∧
      address apiUrl = String.ofList base ++ "/api/v1/authentication/login" := by
  refine ⟨apiUrl.toList.rdropWhile (· == '/'), apiUrl.toList.rtakeWhile (· == '/'),
    (List.rdropWhile_append_rtakeWhile ..).symm, fun c hc => ?_, fun hlast => ?_, rfl⟩
  · have hslash := List.mem_rtakeWhile_imp hc
    exact beq_iff_eq.1 hslash
  · obtain ⟨hne, hslash⟩ := List.mem_getLast?_eq_getLast hlast
    exact List.rdropWhile_last_not _ _ hne (beq_iff_eq.2 hslash.symm)

/-- A message that asks for a token with the names in the settings: it goes to the address of the
server without the slashes at its end, followed by the path. -/
structure AsksForToken (s : Settings) (p : Post) : Prop where
  url : ∃ base slashes, s.apiUrl.toList = base ++ slashes ∧ (∀ c ∈ slashes, c = '/') ∧
    base.getLast? ≠ some '/' ∧ p.url = String.ofList base ++ "/api/v1/authentication/login"
  headers : p.headers =
    [("Content-Type", "application/json"), ("x-client-id", s.clientId), ("x-api-key", s.apiKey)]
  timeout : p.timeout = s.timeout

theorem asksForToken_post (s : Settings) : AsksForToken s (post s) := ⟨address_eq s.apiUrl, rfl, rfl⟩

/-! ### Answers -/

/-- An answer that holds a token: it is accepted, and its text is an object with a member `token`
that is not empty. -/
structure Holds (r : LoginReply) (v : Json) : Prop where
  accepted : r.status < 400
  reads : ∃ members fits, r.json = .ok ⟨.object members, fits⟩ ∧
    Entries.get? "token" members = some v
  nonempty : v.isEmpty = false

theorem tokenOf_eq_ok_iff {r : LoginReply} {token : String} :
    tokenOf r = .ok token ↔ ∃ v, Holds r v ∧ token = v.literal.display := by
  constructor
  · intro h
    unfold tokenOf at h
    split at h
    · cases h
    · rename_i hstatus
      split at h
      · cases h
      · rename_i members fits hreads
        split at h
        · rename_i v hmember
          split at h
          · cases h
          · rename_i hempty
            exact ⟨v, ⟨Int.not_le.1 hstatus, ⟨members, fits, hreads, hmember⟩, by simpa using hempty⟩,
              (Except.ok.inj h).symm⟩
        · cases h
      · cases h
  · rintro ⟨v, ⟨hstatus, ⟨members, fits, hreads, hmember⟩, hempty⟩, rfl⟩
    simp [tokenOf, Int.not_le.2 hstatus, hreads, hmember, hempty]

/-- No integer in a token is too long to be written. -/
theorem Holds.hasShortIntegers {r : LoginReply} {v : Json} (h : Holds r v) :
    v.HasShortIntegers := by
  obtain ⟨members, fits, -, hmember⟩ := h.reads
  cases Json.numberFault?_eq_none_iff.1 fits with
  | object holds => exact (holds _ (Entries.mem_of_get? hmember)).mono (fun _ => id) fun _ _ => trivial

/-! ### Logging in -/

/-- What a login comes to, and all that was sent then. -/
inductive Outcome (server : Server) (s : Settings) (sent : List Dispatch) :
    Except LoginFault String × List Dispatch → Prop
  | unsent (unset : s.apiUrl = "") : Outcome server s sent (.error .notConfigured, sent)
  | unanswered {why : String} (configured : s.apiUrl ≠ "")
      (answer : server.login sent (post s) = .error why) :
      Outcome server s sent (.error (.notSent why), sent ++ [.login (post s)])
  | answered {r : LoginReply} (configured : s.apiUrl ≠ "")
      (answer : server.login sent (post s) = .ok r) :
      Outcome server s sent (tokenOf r, sent ++ [.login (post s)])

theorem token_outcome (server : Server) (s : Settings) (sent : List Dispatch) :
    Outcome server s sent (token server.session s sent) := by
  unfold token
  split
  · rename_i hunset
    exact .unsent (String.isEmpty_iff.1 hunset)
  · rename_i hconfigured
    rw [String.isEmpty_iff] at hconfigured
    rw [Server.session_post]
    cases hanswer : server.login sent (post s) with
    | error why => exact .unanswered hconfigured hanswer
    | ok r => exact .answered hconfigured hanswer

namespace Outcome

variable {server : Server} {s : Settings} {sent : List Dispatch}
  {found : Except LoginFault String × List Dispatch}

theorem usable (h : Outcome server s sent found) :
    (∃ token, found.1 = .ok token ∧ token ≠ "") ∨ ∃ fault, found.1 = .error fault := by
  cases h with
  | unsent | unanswered => exact .inr ⟨_, rfl⟩
  | @answered r =>
    cases hresult : tokenOf r with
    | error fault => exact .inr ⟨fault, rfl⟩
    | ok token =>
      obtain ⟨v, hholds, rfl⟩ := tokenOf_eq_ok_iff.1 hresult
      exact .inl ⟨_, rfl, Json.display_literal_ne_empty hholds.nonempty⟩

theorem sent_at_most_once (h : Outcome server s sent found) :
    found.2 = sent ∨ ∃ p, AsksForToken s p ∧ found.2 = sent ++ [.login p] := by
  cases h with
  | unsent => exact .inl rfl
  | unanswered | answered => exact .inr ⟨_, asksForToken_post s, rfl⟩

theorem eq_ok_iff (h : Outcome server s sent found) (token : String) :
    found.1 = .ok token ↔ ∃ p r v, found.2 = sent ++ [.login p] ∧ AsksForToken s p ∧
      server.login sent p = .ok r ∧ Holds r v ∧ v.HasShortIntegers ∧ token = v.literal.display := by
  constructor
  · intro hresult
    cases h with
    | unsent | unanswered => simp at hresult
    | @answered r _ answer =>
      obtain ⟨v, hholds, htoken⟩ := tokenOf_eq_ok_iff.1 hresult
      exact ⟨post s, r, v, rfl, asksForToken_post s, answer, hholds, hholds.hasShortIntegers, htoken⟩
  · rintro ⟨p, r, v, hsent, -, hanswer, hholds, -, htoken⟩
    cases h with
    | unsent => simp at hsent
    | unanswered _ answer =>
      obtain rfl : post s = p := by simpa using hsent
      simp [answer] at hanswer
    | @answered r' _ answer =>
      obtain rfl : post s = p := by simpa using hsent
      obtain rfl := Except.ok.inj (answer.symm.trans hanswer)
      exact tokenOf_eq_ok_iff.2 ⟨v, hholds, htoken⟩

end Outcome

/-- A login gives a token that is not empty or says why there is none, and at most one message is
posted for it. There is a token exactly when one message was posted to the address of the login and
its answer was accepted and held the token. -/
theorem token_usable (server : Server) (s : Settings) (sent : List Dispatch) :
    let (result, after) := token server.session s sent
    ((∃ token, result = .ok token ∧ token ≠ "") ∨ ∃ fault, result = .error fault) ∧
      (after = sent ∨ ∃ p, AsksForToken s p ∧ after = sent ++ [.login p]) ∧
      ∀ token, result = .ok token ↔ ∃ p r v, after = sent ++ [.login p] ∧ AsksForToken s p ∧
        server.login sent p = .ok r ∧ Holds r v ∧ v.HasShortIntegers ∧ token = v.literal.display := by
  have houtcome := token_outcome server s sent
  exact ⟨houtcome.usable, houtcome.sent_at_most_once, houtcome.eq_ok_iff⟩

end Login

end HttpScript
