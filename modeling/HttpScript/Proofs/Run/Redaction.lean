import HttpScript.Proofs.Run.Exits
import HttpScript.Proofs.Run.Records

/-!
# Secret headers in the log

Two requests that differ in the values of secret headers only are followed side by side. Records of
messages hold these values masked, so when both requests render the log tells nothing. The error of
a template is not masked: it is quoted with the template, and this may be a secret value.
-/
namespace HttpScript

/-- Two headers with the same name, and with the same value unless it is secret. -/
structure Field.SameButSecret (f f' : Field) : Prop where
  name : f.name = f'.name
  value : isSecret f.name = false → f.value = f'.value

/-- Two requests that agree in everything but the values of secret headers. -/
structure Request.SameButSecrets (r r' : Request) : Prop where
  method : r.method = r'.method
  url : r.url = r'.url
  headers : List.Forall₂ Field.SameButSecret r.headers r'.headers
  body : r.body = r'.body
  expectedStatus : r.expectedStatus = r'.expectedStatus
  captures : r.captures = r'.captures
  waitMs : r.waitMs = r'.waitMs
  line : r.line = r'.line

/-- A text is the value of a secret header. -/
def IsSecretValue (fields : List Field) (value : String) : Prop :=
  ∃ f ∈ fields, isSecret f.name = true ∧ f.value = value

theorem IsSecretValue.cons {fields : List Field} {value : String} (h : IsSecretValue fields value)
    (f : Field) : IsSecretValue (f :: fields) value := by
  obtain ⟨g, hmem, hg⟩ := h
  exact ⟨g, List.mem_cons_of_mem f hmem, hg⟩

/-- A value that is not the same in both headers is secret in both. -/
theorem Field.SameButSecret.isSecret {f f' : Field} (h : f.SameButSecret f')
    (hne : f.value ≠ f'.value) : isSecret f.name = true ∧ isSecret f'.name = true := by
  have hsecret : HttpScript.isSecret f.name = true := by
    by_contra hopen
    exact hne (h.value (by simpa using hopen))
  exact ⟨hsecret, h.name ▸ hsecret⟩

/-! ### Messages -/

/-- Rendered headers look alike when they are masked. -/
theorem mask_rendered {vars : Variables} {fields fields' : List Field}
    (h : List.Forall₂ Field.SameButSecret fields fields') :
    (fields.map fun f => Text.Literal.tuple
        [.text f.name, mask f.name (.text (rendering vars f.value))]) =
      fields'.map fun f => .tuple [.text f.name, mask f.name (.text (rendering vars f.value))] := by
  induction h with
  | nil => rfl
  | @cons f f' fields fields' hf _ ih =>
    rw [List.map_cons, List.map_cons, ih, ← hf.name]
    cases hsecret : isSecret f.name with
    | true => simp [mask, hsecret]
    | false => rw [hf.value hsecret]

section

variable {r r' : Request} (h : r.SameButSecrets r') {ctx : Context}
include h

/-- What is written of a message does not tell its secret headers. -/
theorem Request.SameButSecrets.requestRecord {m m' : Outgoing} (hm : prepare r ctx = .ok m)
    (hm' : prepare r' ctx = .ok m') (log : Logger) :
    m.url = m'.url ∧ Step.requestRecord log m = Step.requestRecord log m' := by
  obtain ⟨url, body, headers, hurl, hbody, hheaders, rfl⟩ := prepare_eq_ok_iff.1 hm
  obtain ⟨url', body', headers', hurl', hbody', hheaders', rfl⟩ := prepare_eq_ok_iff.1 hm'
  obtain rfl : url = url' := Except.ok.inj (hurl.symm.trans (h.url ▸ hurl'))
  obtain rfl : body = body' := Except.ok.inj (hbody.symm.trans (h.body ▸ hbody'))
  have hmasked : maskHeaders (defaultHeaders ctx.token ++ headers) =
      maskHeaders (defaultHeaders ctx.token ++ headers') := by
    rw [(expandHeaders_ok hheaders).1, (expandHeaders_ok hheaders').1, maskHeaders, maskHeaders]
    simp only [List.map_append, List.map_map, Function.comp_def, mask_rendered h.headers]
  exact ⟨rfl, by rw [Step.requestRecord, Step.requestRecord, hmasked, h.method]⟩

end

/-! ### Errors -/

/-- Two errors of the headers are the same, or one of them quotes a secret value. -/
theorem expandHeaders_errors {vars : Variables} {fields fields' : List Field}
    (h : List.Forall₂ Field.SameButSecret fields fields') {e e' : Template.Error}
    (he : expandHeaders vars fields = .error e) (he' : expandHeaders vars fields' = .error e') :
    e = e' ∨ IsSecretValue fields e.template ∨ IsSecretValue fields' e'.template := by
  induction h with
  | nil => cases he
  | @cons f f' fields fields' hf _ ih =>
    by_cases hvalue : f.value = f'.value
    · obtain hfirst | ⟨value, hfirst, hrest⟩ := expandHeaders_cons_error_iff.1 he
      · obtain hfirst' | ⟨value', hfirst', -⟩ := expandHeaders_cons_error_iff.1 he'
        · exact .inl (Except.error.inj (hfirst.symm.trans (hvalue ▸ hfirst')))
        · rw [← hvalue, hfirst] at hfirst'
          cases hfirst'
      · obtain hfirst' | ⟨value', -, hrest'⟩ := expandHeaders_cons_error_iff.1 he'
        · rw [← hvalue, hfirst] at hfirst'
          cases hfirst'
        · exact (ih hrest hrest').imp_right (Or.imp (·.cons f) (·.cons f'))
    · obtain ⟨hsecret, hsecret'⟩ := hf.isSecret hvalue
      obtain hfirst | ⟨value, -, hrest⟩ := expandHeaders_cons_error_iff.1 he
      · have htemplate := (Template.pieces_of_expand hfirst).1
        exact .inr (.inl ⟨f, List.mem_cons_self, hsecret, htemplate.symm⟩)
      · obtain hfirst' | ⟨value', -, hrest'⟩ := expandHeaders_cons_error_iff.1 he'
        · have htemplate := (Template.pieces_of_expand hfirst').1
          exact .inr (.inr ⟨f', List.mem_cons_self, hsecret', htemplate.symm⟩)
        · exact (ih hrest hrest').imp_right (Or.imp (·.cons f) (·.cons f'))

theorem prepare_errors {r r' : Request} (h : r.SameButSecrets r') {ctx : Context}
    {e e' : Template.Error} (he : prepare r ctx = .error e) (he' : prepare r' ctx = .error e') :
    e = e' ∨ IsSecretValue r.headers e.template ∨ IsSecretValue r'.headers e'.template := by
  rw [prepare_eq_error_iff] at he he'
  rw [← h.url, ← h.body] at he'
  obtain hurl | ⟨url, hurl, hbody | ⟨body, hbody, hheaders⟩⟩ := he
  · obtain hurl' | ⟨url', hurl', -⟩ := he'
    · exact .inl (Except.error.inj (hurl.symm.trans hurl'))
    · rw [hurl] at hurl'
      cases hurl'
  · obtain hurl' | ⟨url', -, hbody' | ⟨body', hbody', -⟩⟩ := he'
    · rw [hurl] at hurl'
      cases hurl'
    · exact .inl (Except.error.inj (hbody.symm.trans hbody'))
    · rw [hbody] at hbody'
      cases hbody'
  · obtain hurl' | ⟨url', -, hbody' | ⟨body', -, hheaders'⟩⟩ := he'
    · rw [hurl] at hurl'
      cases hurl'
    · rw [hbody] at hbody'
      cases hbody'
    · exact expandHeaders_errors h.headers hheaders hheaders'

/-! ### Records of a request -/

namespace Step

variable {σ : Type} {send : Transport σ} {r r' : Request} {ctx : Context} {link : σ}
  (evaluate : Evaluator) (console : Console) (log : Logger)

/-- The one record of a request whose template does not render. -/
def templateRecord (log : Logger) (e : Template.Error) : Record :=
  log.record .error "template.render_failed" [("error", .text e.message)]

theorem records_run_of_template {e : Template.Error} (h : prepare r ctx = .error e) :
    records (run send evaluate console log r ctx link).journal = [templateRecord log e] := by
  rw [run_of_template evaluate console log h]
  rfl

theorem head_records_run {m : Outgoing} (h : prepare r ctx = .ok m) :
    (records (run send evaluate console log r ctx link).journal).head? =
      some (requestRecord log m) := by
  obtain ⟨answer, link', hsend⟩ : ∃ answer link', send m link = (answer, link') := ⟨_, _, rfl⟩
  cases answer with
  | error why => rw [run_of_transport evaluate console log h hsend]; rfl
  | ok reply => rw [run_of_reply evaluate console log h hsend]; rfl

theorem templateRecord_inj {e e' : Template.Error}
    (h : templateRecord log e = templateRecord log e') : e.message = e'.message := by
  have hfield : ∀ e, Entries.get? "error" (templateRecord log e).fields =
      some (.text e.message) := by
    intro e
    rw [templateRecord, get?_record log _ _ _ (by decide)]
    simp [Entries.lastWrite?]
  have htext := (hfield e).symm.trans (h ▸ hfield e')
  exact Text.Literal.text.inj (Option.some.inj htext)

theorem requestRecord_ne_templateRecord (m : Outgoing) (e : Template.Error) :
    requestRecord log m ≠ templateRecord log e := by
  intro h
  have hevent : "http.request" = "template.render_failed" := congrArg Record.event h
  exact absurd hevent (by decide)

/-- When both requests render and are answered alike, the records are the same. -/
theorem records_run_congr (h : r.SameButSecrets r') {m m' : Outgoing}
    (hm : prepare r ctx = .ok m) (hm' : prepare r' ctx = .ok m')
    (hreply : (send m link).1 = (send m' link).1) :
    records (run send evaluate console log r ctx link).journal =
      records (run send evaluate console log r' ctx link).journal := by
  obtain ⟨hurl, hrecord⟩ := h.requestRecord hm hm' log
  obtain ⟨answer, left, hsend⟩ : ∃ answer left, send m link = (answer, left) := ⟨_, _, rfl⟩
  obtain ⟨left', hsend'⟩ : ∃ left', send m' link = (answer, left') :=
    ⟨(send m' link).2, Prod.ext (by rw [← hreply, hsend]) rfl⟩
  cases answer with
  | error why =>
    rw [run_of_transport evaluate console log hm hsend,
      run_of_transport evaluate console log hm' hsend', hrecord, hurl]
    rfl
  | ok reply =>
    by_cases hstatus : r.expectedStatus ≠ 0 ∧ reply.status ≠ r.expectedStatus
    · rw [run_of_status evaluate console log hm hsend hstatus,
        run_of_status evaluate console log hm' hsend' (h.expectedStatus ▸ hstatus), hrecord]
      rfl
    · rw [run_of_passed evaluate console log hm hsend hstatus,
        run_of_passed evaluate console log hm' hsend' (h.expectedStatus ▸ hstatus), hrecord,
        h.captures]
      rfl

/-- Of two requests that differ in secret values only, and are answered alike, the records are the
same exactly when both render or both have the same error. So they tell a secret only through the
error of a template, and when two errors differ, one of them quotes the value of a secret header. -/
theorem records_run_eq_iff (h : r.SameButSecrets r')
    (hreply : ∀ m m', prepare r ctx = .ok m → prepare r' ctx = .ok m' →
      (send m link).1 = (send m' link).1) :
    (records (run send evaluate console log r ctx link).journal =
        records (run send evaluate console log r' ctx link).journal ↔
      (∃ m m', prepare r ctx = .ok m ∧ prepare r' ctx = .ok m') ∨
        ∃ e, prepare r ctx = .error e ∧ prepare r' ctx = .error e) ∧
    ∀ e e', prepare r ctx = .error e → prepare r' ctx = .error e' → e ≠ e' →
      IsSecretValue r.headers e.template ∨ IsSecretValue r'.headers e'.template := by
  refine ⟨⟨fun hrecords => ?_, ?_⟩, fun e e' he he' hne =>
    (prepare_errors h he he').resolve_left hne⟩
  · have hfirst := congrArg List.head? hrecords
    cases hm : prepare r ctx with
    | ok m =>
      cases hm' : prepare r' ctx with
      | ok m' => exact .inl ⟨m, m', rfl, rfl⟩
      | error e' =>
        rw [head_records_run evaluate console log hm,
          records_run_of_template evaluate console log hm'] at hfirst
        exact absurd (Option.some.inj hfirst) (requestRecord_ne_templateRecord log m e')
    | error e =>
      cases hm' : prepare r' ctx with
      | ok m' =>
        rw [head_records_run evaluate console log hm',
          records_run_of_template evaluate console log hm] at hfirst
        exact absurd (Option.some.inj hfirst).symm (requestRecord_ne_templateRecord log m' e)
      | error e' =>
        rw [records_run_of_template evaluate console log hm,
          records_run_of_template evaluate console log hm'] at hfirst
        have hmessage := templateRecord_inj log (Option.some.inj hfirst)
        have hof := isOf_of_prepare hm
        have hof' := isOf_of_prepare hm'
        obtain rfl := Template.eq_of_message hof.fails hof'.fails hmessage
        exact .inr ⟨e, rfl, rfl⟩
  · rintro (⟨m, m', hm, hm'⟩ | ⟨e, he, he'⟩)
    · exact records_run_congr evaluate console log h hm hm' (hreply m m' hm hm')
    · rw [records_run_of_template evaluate console log he,
        records_run_of_template evaluate console log he']

/-- A request with a key of its own. -/
def keyed (key : String) : Request where
  method := "GET"
  url := "/x"
  headers := [⟨"X-Api-Key", key⟩]

theorem isSecret_apiKey : isSecret "X-Api-Key" = true := by decide +kernel

theorem keyed_sameButSecrets (key key' : String) : (keyed key).SameButSecrets (keyed key') where
  method := rfl
  url := rfl
  headers := .cons ⟨rfl, fun h => absurd (isSecret_apiKey.symm.trans h) (by decide)⟩ .nil
  body := rfl
  expectedStatus := rfl
  captures := rfl
  waitMs := rfl
  line := rfl

/-- Two keys make no difference to the log, whatever the server answers to both. -/
theorem records_run_eq_iff_keyed :
    let send : Transport Nat := fun _ n => (.ok ⟨200, "/x", "\x7b\x7d", [], "OK"⟩, n + 1)
    let evaluate : Evaluator := fun _ document => ⟨[document], .done⟩
    records (run send evaluate {} {} (keyed "first") {} 0).journal =
      records (run send evaluate {} {} (keyed "second") {} 0).journal := by
  intro send evaluate
  have hfirst : prepare (keyed "first") {} = .ok ⟨"GET", "/x",
      [("Content-Type", "application/json"), ("Authorization", "Bearer "), ("X-Api-Key", "first")],
      none⟩ := by cbv
  have hsecond : prepare (keyed "second") {} = .ok ⟨"GET", "/x",
      [("Content-Type", "application/json"), ("Authorization", "Bearer "), ("X-Api-Key", "second")],
      none⟩ := by cbv
  have hsame := keyed_sameButSecrets "first" "second"
  exact (records_run_eq_iff evaluate {} {} hsame fun _ _ _ _ => rfl).1.2
    (.inl ⟨_, _, hfirst, hsecond⟩)

/-- A key that opens a reference and does not close it is quoted in the log. -/
theorem not_forall_records_run_eq :
    ¬ ∀ (r r' : Request) (ctx : Context) (send : Transport Nat) (link : Nat)
      (evaluate : Evaluator) (console : Console) (log : Logger), r.SameButSecrets r' →
      (∀ m m', prepare r ctx = .ok m → prepare r' ctx = .ok m' →
        (send m link).1 = (send m' link).1) →
      ((∃ m m', prepare r ctx = .ok m ∧ prepare r' ctx = .ok m') ∨
        ∃ e e', prepare r ctx = .error e ∧ prepare r' ctx = .error e') →
      records (run send evaluate console log r ctx link).journal =
        records (run send evaluate console log r' ctx link).journal := by
  intro h
  have hfirst : prepare (keyed "first \x7b\x7b") {} =
      .error ⟨"first \x7b\x7b", .unclosed⟩ := by cbv
  have hsecond : prepare (keyed "second \x7b\x7b") {} =
      .error ⟨"second \x7b\x7b", .unclosed⟩ := by cbv
  have hrecords := h _ _ {} (fun _ n => (.error "", n)) 0 (fun _ document => ⟨[document], .done⟩) {}
    {} (keyed_sameButSecrets "first \x7b\x7b" "second \x7b\x7b") (fun _ _ _ _ => rfl)
    (.inr ⟨_, _, hfirst, hsecond⟩)
  rw [records_run_of_template _ _ _ hfirst, records_run_of_template _ _ _ hsecond] at hrecords
  have hmessage := templateRecord_inj {} (List.cons.inj hrecords).1
  exact absurd hmessage (by decide +kernel)

end Step

end HttpScript
