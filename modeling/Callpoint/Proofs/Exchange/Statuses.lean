import Callpoint.Proofs.Access
import Callpoint.Proofs.Document.Paths
import Callpoint.Proofs.Document.Responses
import Callpoint.Proofs.Exchange.Secrecy

/-!
# Statuses of answers

The document of a service lists the status of every answer that the service gives, as long as the
handlers return declared errors as they were declared (`status_documented`).  A handler may also
return an error with a declared code and another status: the answer then has the status of the error
and not the declared one (`served_declared_error`, `declared_status_not_kept`).
-/

namespace Callpoint

open Document (DocumentsStatus ServiceError)

/-- **Declared errors are returned as declared:** each typed error of the handler has a code that is
not declared, or it is derived from an error that is. -/
def Endpoint.ReturnsAsDeclared {α β : Type} (e : Endpoint α β) : Prop :=
  ∀ c x chain t, e.handler c x = .error chain → Chain.Outermost chain t →
    ¬ e.spec.DeclaresCode t.code ∨ ∃ d ∈ e.spec.errors, TypedError.DerivedFrom d t

namespace Service

variable {α β : Type} {s : Service} {e : Endpoint α β} {r : Request}

/-! ### Answers ahead of the handler -/

theorem documentsStatus_of_bodyObstacle {spec : Spec} {input : InputType α} {o : Obstacle}
    (hplace : spec.input.placeholder = false) (h : s.BodyObstacle spec input r o) :
    DocumentsStatus spec o.status := by
  cases h with
  | tooLarge => exact (ServiceError.payloadTooLarge hplace).documentsStatus
  | unreadable => exact (ServiceError.badRequest hplace).documentsStatus
  | malformed => exact (ServiceError.validationError (Or.inl hplace)).documentsStatus
  | mistyped => exact (ServiceError.validationError (Or.inl hplace)).documentsStatus
  | invalid => exact (ServiceError.validationError (Or.inl hplace)).documentsStatus

theorem documentsStatus_of_denied {spec : Spec} {caller : Identity} {denial : Denial}
    (h : authorize spec.access caller = .error denial) : DocumentsStatus spec denial.status := by
  rcases authorize_eq_error h with ⟨hauth, rfl⟩ | ⟨group, hgroup, rfl⟩ | ⟨group, hgroup, rfl⟩ |
    ⟨limit, hlimit, rfl⟩
  · exact (ServiceError.unauthorized hauth).documentsStatus
  · exact (ServiceError.forbidden (Or.inl (List.ne_nil_of_mem hgroup))).documentsStatus
  · exact (ServiceError.forbidden (Or.inr (List.ne_nil_of_mem hgroup))).documentsStatus
  · exact (ServiceError.rateLimited (List.ne_nil_of_mem hlimit)).documentsStatus

theorem documentsStatus_of_firstObstacle {spec : Spec} {input : InputType α} {o : Obstacle}
    (h : s.FirstObstacle spec input r o) : DocumentsStatus spec o.status := by
  cases h with
  | params hsplit _ _ =>
    -- A parameter that is missing was declared.
    have hparams : spec.pathParams ≠ [] := by
      rw [hsplit]
      exact List.append_ne_nil_of_right_ne_nil _ (List.cons_ne_nil _ _)
    exact (ServiceError.validationError (Or.inr hparams)).documentsStatus
  | body _ hplace hbody => exact documentsStatus_of_bodyObstacle hplace hbody
  | access _ _ hdenied => exact documentsStatus_of_denied hdenied

/-! ### Answers to what a handler returns -/

theorem status_of_delivers {y : β} {response : Response} (h : s.Delivers e y response) :
    response.status = e.spec.successStatus := by
  cases h <;> rfl

/-- **Which statuses an endpoint answers with.** -/
theorem status_serve (s : Service) (e : Endpoint α β) (he : e.ReturnsAsDeclared) (r : Request) :
    (s.serve e r).2.response.status = e.spec.successStatus ∨
      DocumentsStatus e.spec (s.serve e r).2.response.status := by
  rcases exists_firstObstacle_or_admits s e.spec e.input r with ⟨o, ho⟩ | ⟨x, hx⟩
  · rw [(serve_of_firstObstacle ho).2, o.status_response]
    exact Or.inr (documentsStatus_of_firstObstacle ho)
  -- From here on the handler is called, and the three cases are those of its outcome.
  have hcall : (s.contextOf e.spec r, x) ∈ Event.calls (s.serve e r).1 := by
    rw [calls_of_admits hx]
    exact List.mem_singleton_self _
  rcases exists_delivers_or_hidden_or_declared s e (e.handler (s.contextOf e.spec r) x) with
    ⟨y, response, hok, hdelivers⟩ | hhidden | ⟨chain, t, herror, ht, hcode⟩
  · have hanswer := outcome_respond_of_delivers hdelivers
    rw [← hok] at hanswer
    rw [served_of_mem_calls hcall hanswer]
    show response.status = e.spec.successStatus ∨ _
    exact Or.inl (status_of_delivers hdelivers)
  · rw [(served_of_hidden hcall hhidden).1]
    have hinternal : ServiceError e.spec Errors.internalError := .internalError
    exact Or.inr hinternal.documentsStatus
  · rcases he _ _ _ _ herror ht with hundeclared | ⟨d, hd, hderived⟩
    · exact absurd hcode hundeclared
    rw [served_of_declared hcall herror ht hcode]
    show _ ∨ DocumentsStatus e.spec t.status
    rw [hderived.status_eq]
    exact Or.inr (Document.documentsStatus_of_declared hd)

/-- **The document knows every status.**  If a document can be built from the specifications of some
endpoints, then each of them has an operation in it, and the responses of this operation list the
status of every answer, whatever the service and the request. -/
theorem status_documented {outline : Outline} {descriptions : Descriptions} {specs : List Spec}
    {doc : Document} (hdoc : Document.build outline descriptions specs = .ok doc) (s : Service)
    (e : Endpoint α β) (hspec : e.spec ∈ specs) (he : e.ReturnsAsDeclared) (r : Request) :
    ∃ op, doc.operation? e.spec.method e.spec.path = some op ∧ op.operationId = e.spec.name ∧
      toString (s.serve e r).2.response.status ∈ op.responses.names := by
  refine ⟨_, Document.operation?_of_build hdoc hspec, rfl, ?_⟩
  show _ ∈ (Document.responses e.spec).names
  rw [Document.mem_names_responses_iff]
  rcases status_serve s e he r with h | h
  · exact Or.inl (congrArg toString h)
  · exact Or.inr ⟨_, h, rfl⟩

/-- The smallest endpoint with one declared error, which it returns with another message, answers
with a status that its document lists. -/
theorem status_documented_probe :
    ∃ doc, Document.build ⟨⟨"probes", "1", none⟩, [], none⟩ ⟨[]⟩
        [(Endpoint.always [.error { Errors.notFound with }] (.ok ())).spec] = .ok doc ∧
      ∃ op, doc.operation? "GET" "/probe" = some op ∧ op.operationId = "probe" ∧
        toString (({} : Service).serve (.always [.error { Errors.notFound with }]
          (.error [.text "loading", .typed (Errors.notFound.withMessage "no probe")]))
          .probe).2.response.status ∈ op.responses.names := by
  refine ⟨_, rfl, status_documented rfl {} (.always [.error { Errors.notFound with }]
    (.error [.text "loading", .typed (Errors.notFound.withMessage "no probe")]))
    (List.mem_singleton_self _) ?_ .probe⟩
  rintro c x chain t herror ⟨above, hchain, huntyped⟩
  obtain rfl := Except.error.inj herror
  have ht : Chain.definition? [.text "loading", .typed (Errors.notFound.withMessage "no probe")]
      = some t := (Chain.definition?_eq_some_iff _ t).mpr ⟨above, hchain, huntyped⟩
  obtain rfl := Option.some.inj ht
  exact Or.inr ⟨_, List.mem_singleton_self _, .message "no probe" .itself⟩

/-! ### Declared errors and their status -/

/-- The declaration of a code: the first error declared with it. -/
theorem exists_declaration {spec : Spec} {code : String} (h : spec.DeclaresCode code) :
    ∃ d, spec.errors.find? (fun d => d.hasCode code) = some d ∧ d ∈ spec.errors ∧
      d.code = code := by
  obtain ⟨d', hd', hcode'⟩ := h
  cases hfind : spec.errors.find? (fun d => d.hasCode code) with
  | none =>
    have := List.find?_eq_none.mp hfind d' hd'
    exact absurd (beq_iff_eq.mpr hcode') this
  | some d =>
    have hcode := List.find?_some (p := fun d : TypedError => d.hasCode code) hfind
    exact ⟨d, rfl, List.mem_of_find?_eq_some hfind, beq_iff_eq.mp hcode⟩

/-- **A declared error is answered with its code and its own status.**  The body is the one for the
returned error.  The status is the declared and documented one exactly if the returned error has it,
so in particular if the returned error is derived from the declaration. -/
theorem served_declared_error {c : Context} {x : α} {chain : Chain} {t : TypedError}
    (hcall : (c, x) ∈ Event.calls (s.serve e r).1) (herror : e.handler c x = .error chain)
    (ht : chain.Outermost t) (hcode : e.spec.DeclaresCode t.code) :
    (s.serve e r).2.response.status = t.status ∧
      (∃ body : Json, (s.serve e r).2.response.body = Text.encode body.compact ∧
        body.get? "code" = some (.string t.code)) ∧
      ∃ d, e.spec.errors.find? (fun d => d.hasCode t.code) = some d ∧
        toString d.status ∈ (Document.responses e.spec).names ∧
        ((s.serve e r).2.response.status = d.status ↔ t.status = d.status) ∧
        (TypedError.DerivedFrom d t → (s.serve e r).2.response.status = d.status) := by
  have hserved := served_of_declared hcall herror ht hcode
  have hstatus : (s.serve e r).2.response.status = t.status := by
    rw [hserved]
    rfl
  obtain ⟨d, hfind, hd, -⟩ := exists_declaration hcode
  refine ⟨hstatus, ⟨t.body.toJson, ?_, rfl⟩, d, hfind, ?_, ?_, fun hderived => ?_⟩
  · rw [hserved]
    rfl
  · exact (Document.mem_names_responses_iff e.spec _).mpr
      (Or.inr ⟨d.status, Document.documentsStatus_of_declared hd, rfl⟩)
  · rw [hstatus]
  · rw [hstatus, hderived.status_eq]

/-- An error that is returned as it was declared. -/
theorem served_declared_error_probe :
    (({} : Service).serve (.always [.error { Errors.notFound with }]
      (.error [.text "loading", .typed Errors.notFound])) .probe).2.response.status = 404 :=
  (served_declared_error (t := { Errors.notFound with })
    (mem_calls_probe {} [.error { Errors.notFound with }]
      (.error [.text "loading", .typed Errors.notFound]) rfl rfl) rfl
    ⟨[.text "loading"], rfl, by simp⟩ ⟨_, List.mem_singleton_self _, rfl⟩).1

/-- **The declared status is not kept:** an error with the declared code `NOT_FOUND`, which is
declared with status 404, but with a status of its own is answered with that status. -/
theorem declared_status_not_kept :
    ¬ ∀ (s : Service) (e : Endpoint Unit Unit) (r : Request) (c : Context) (x : Unit)
      (chain : Chain) (t d : TypedError), (c, x) ∈ Event.calls (s.serve e r).1 →
      e.handler c x = .error chain → chain.Outermost t →
      e.spec.errors.find? (fun d => d.hasCode t.code) = some d →
      (s.serve e r).2.response.status = d.status := by
  intro h
  have hteapot := h {} (.always [.error { Errors.notFound with }]
    (.error [.typed { Errors.notFound with status := 418 }])) .probe _ ()
    [.typed { Errors.notFound with status := 418 }] { Errors.notFound with status := 418 }
    { Errors.notFound with } (mem_calls_probe {} _ _ rfl rfl) rfl ⟨[], rfl, by simp⟩ rfl
  have hserved : (({} : Service).serve (.always [.error { Errors.notFound with }]
      (.error [.typed { Errors.notFound with status := 418 }])) .probe).2.response.status = 418 :=
    rfl
  rw [hserved] at hteapot
  exact absurd hteapot (by decide)

end Service

end Callpoint
