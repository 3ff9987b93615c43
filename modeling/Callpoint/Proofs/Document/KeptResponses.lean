import Callpoint.Proofs.Document.Paths
import Callpoint.Proofs.Document.Responses

/-!
# Which responses are kept

An operation lists one response under each status.  All declared errors of a status are told in it,
in the order in which they are declared (`exists_response_of_declared`).  The response of success is
listed as well, but for one case: an error that has the status of success takes its place, whether
it is declared or answered by the service itself (`responses_kept_iff`).

The two are told apart by their descriptions.  Every error is described by its code, a colon and its
message, and there is no colon in what is said of success.
-/

namespace Callpoint

open Document (typeSchema)

/-- **A response describes the success of an endpoint:** with the schema of what is sent, or of
texts for events that have no type, and with no content where nothing is sent. -/
structure ResponseContent.DescribesSuccess (response : ResponseContent) (spec : Spec) : Prop where
  description : response.description
    = if spec.streaming = true then "Event stream" else "Successful response"
  nothing : spec.streaming = false → spec.output.placeholder = true → response.content = []
  body : spec.streaming = false → spec.output.placeholder = false →
    response.content = [("application/json", ⟨some (typeSchema spec.output)⟩)]
  events : spec.streaming = true → spec.output.placeholder = false →
    response.content = [("text/event-stream", ⟨some (typeSchema spec.output)⟩)]
  texts : spec.streaming = true → spec.output.placeholder = true →
    response.content = [("text/event-stream", ⟨some .string⟩)]

namespace Document

variable {spec : Spec} {group : List Definition} {d : TypedError}

/-- The response of success describes success, in each of the four cases. -/
theorem describesSuccess_successResponse (spec : Spec) :
    (successResponse spec).DescribesSuccess spec where
  description := by
    unfold successResponse
    split <;> rfl
  nothing hstreaming hplace := by simp [successResponse, hstreaming, hplace]
  body hstreaming hplace := by simp [successResponse, content, jsonType, hstreaming, hplace]
  events hstreaming hplace := by
    simp [successResponse, content, eventStreamType, hstreaming, hplace]
  texts hstreaming hplace := by
    simp [successResponse, content, eventStreamType, hstreaming, hplace]

/-! ### Descriptions of errors -/

theorem colon_mem_display (e : Definition) : ':' ∈ e.display.toList := by
  simp [Definition.display]

/-- Whatever the errors are, there is a colon in what is said of them. -/
theorem colon_mem_description (hgroup : group ≠ []) :
    ':' ∈ (errorResponse group).description.toList := by
  obtain ⟨e, rest, rfl⟩ := List.exists_cons_of_ne_nil hgroup
  unfold errorResponse
  -- What is said of the first error comes first, alone or joined with the rest.
  cases rest with
  | nil =>
    rw [List.map_singleton, String.intercalate_singleton]
    exact colon_mem_display e
  | cons next rest =>
    rw [List.map_cons, List.map_cons, String.intercalate_cons_cons, String.append_assoc,
      String.toList_append]
    exact List.mem_append_left _ (colon_mem_display e)

/-- The colon tells the response of errors from that of success. -/
theorem not_describesSuccess_errorResponse (hgroup : group ≠ []) :
    ¬ (errorResponse group).DescribesSuccess spec := by
  intro h
  have hcolon := colon_mem_description hgroup
  rw [h.description] at hcolon
  split at hcolon <;> exact absurd hcolon (by decide)

/-! ### Groups of errors -/

/-- A group of errors is never empty. -/
theorem group_ne_nil {status : Nat} (h : (status, group) ∈ errorGroups spec) : group ≠ [] := by
  obtain ⟨e, he, hstatus⟩ :=
    (mem_statuses_errorGroups spec status).mp (List.mem_map.mpr ⟨_, h, rfl⟩)
  rw [eq_filter_of_mem_errorGroups h]
  exact List.ne_nil_of_mem (List.mem_filter.mpr ⟨he, beq_iff_eq.mpr hstatus⟩)

/-- Under the status of a declared error only declared errors are documented. -/
theorem filter_documentedErrors_of_declared (h : d ∈ spec.errors) :
    (documentedErrors spec).filter (fun e => e.status == d.status)
      = (spec.errors.filter fun e => e.status = d.status).map TypedError.toDefinition := by
  -- Errors of the service are left out where a declared one has their status.
  have himplicit : ∀ e ∈ (implicitErrors spec).filter (fun e =>
      !(spec.errors.map TypedError.toDefinition).any fun t => t.status == e.status),
      ¬ (e.status == d.status) = true := by
    intro e he hstatus
    have hdeclared := (List.mem_filter.mp he).2
    rw [Bool.not_eq_true', List.any_eq_false] at hdeclared
    exact hdeclared d.toDefinition (List.mem_map_of_mem h)
      (beq_iff_eq.mpr (beq_iff_eq.mp hstatus).symm)
  unfold documentedErrors
  rw [List.filter_append, List.filter_eq_nil_iff.mpr himplicit, List.append_nil, List.filter_map]
  rfl

/-- **A declared error is listed** with all others of its status, in the order of declaration. -/
theorem exists_response_of_declared (h : d ∈ spec.errors) :
    ∃ response, Assoc.get? (responses spec) (toString d.status) = some response ∧
      response.description = "; ".intercalate
        ((spec.errors.filter fun e => e.status = d.status).map fun e =>
          e.code ++ ": " ++ e.message) := by
  rcases get?_responses spec d.status with ⟨hnone, -⟩ | ⟨-, group, hgroup, hget⟩
  · exact absurd (documentsStatus_of_declared h) hnone
  · refine ⟨_, hget, ?_⟩
    rw [errorResponse, eq_filter_of_mem_errorGroups hgroup, filter_documentedErrors_of_declared h,
      List.map_map]
    rfl

/-- **When success is listed:** if no documented error has its status. -/
theorem exists_response_of_success (spec : Spec) :
    ∃ response, Assoc.get? (responses spec) (toString spec.successStatus) = some response ∧
      (response.DescribesSuccess spec ↔ ¬ DocumentsStatus spec spec.successStatus) := by
  rcases get?_responses spec spec.successStatus with ⟨hnone, hget⟩ | ⟨hsome, group, hgroup, hget⟩
  · rw [if_pos rfl] at hget
    exact ⟨_, hget, iff_of_true (describesSuccess_successResponse spec) hnone⟩
  · refine ⟨_, hget, iff_of_false ?_ (not_not_intro hsome)⟩
    exact not_describesSuccess_errorResponse (group_ne_nil hgroup)

/-! ### Responses of a document -/

/-- **Which responses are kept.**  In a document that was built, each declared error is listed under
its status, with the codes and messages of all declared errors of that status in the order of their
declaration.  The response under the status of success describes success exactly if no declared
error has this status and the service answers no error of its own with it. -/
theorem responses_kept_iff {outline : Outline} {descriptions : Descriptions} {specs : List Spec}
    {doc : Document} (h : build outline descriptions specs = .ok doc) (hspec : spec ∈ specs) :
    ∃ op, doc.operation? spec.method spec.path = some op ∧
      (∀ d ∈ spec.errors, ∃ response,
        Assoc.get? op.responses (toString d.status) = some response ∧
        response.description = "; ".intercalate
          ((spec.errors.filter fun e => e.status = d.status).map fun e =>
            e.code ++ ": " ++ e.message)) ∧
      ∃ response, Assoc.get? op.responses (toString spec.successStatus) = some response ∧
        (response.DescribesSuccess spec ↔ (∀ d ∈ spec.errors, d.status ≠ spec.successStatus) ∧
          ∀ d, ServiceError spec d → d.status ≠ spec.successStatus) := by
  obtain ⟨response, hget, hsuccess⟩ := exists_response_of_success spec
  refine ⟨_, operation?_of_build h hspec, fun d hd => exists_response_of_declared hd, response,
    hget, hsuccess.trans ?_⟩
  rw [documentsStatus_iff]
  simp only [not_or, not_exists, not_and, ne_eq]

/-- An endpoint that creates something, with two errors of one status. -/
def creates : Spec := .build "create" "POST" "/jobs" [.types .noBody ⟨"app::Job", false⟩,
  .successStatus 201, .error ⟨Errors.notFound, []⟩,
  .error ⟨{ code := "QUEUE_GONE", status := 404, message := "no such queue" }, []⟩]

/-- Both errors are told in one response, and success is told in its own. -/
theorem responses_kept_creates :
    ∃ doc, build { info := ⟨"Jobs", "1", none⟩ } ⟨[]⟩ [creates] = .ok doc ∧
      ∃ op missing created, doc.operation? "POST" "/jobs" = some op ∧
        Assoc.get? op.responses "404" = some missing ∧
        missing.description = "NOT_FOUND: not found; QUEUE_GONE: no such queue" ∧
        Assoc.get? op.responses "201" = some created ∧ created.DescribesSuccess creates := by
  refine Exists.imp (fun doc h => ⟨h, ?_⟩) ⟨_, rfl⟩
  obtain ⟨op, hop, hdeclared, created, hcreated, hsuccess⟩ :=
    responses_kept_iff h (List.mem_singleton_self _)
  obtain ⟨missing, hmissing, hdescription⟩ := hdeclared _ List.mem_cons_self
  refine ⟨op, missing, created, hop, hmissing, hdescription, hcreated, hsuccess.mpr ⟨?_, ?_⟩⟩
  · decide
  · exact fun d hd hstatus => absurd (hstatus ▸ hd.le_status) (by decide)

/-- An endpoint that accepts something, with an error of the same status. -/
def accepts : Spec := .build "enqueue" "POST" "/jobs" [.types .noBody ⟨"app::Job", false⟩,
  .successStatus 202,
  .error ⟨{ code := "ALREADY_QUEUED", status := 202, message := "already queued" }, []⟩]

/-- **Success is lost** where an error has its status: the response tells of the error only. -/
theorem success_taken_by_an_error :
    ∃ doc, build { info := ⟨"Jobs", "1", none⟩ } ⟨[]⟩ [accepts] = .ok doc ∧
      ∃ op response, doc.operation? "POST" "/jobs" = some op ∧
        Assoc.get? op.responses (toString accepts.successStatus) = some response ∧
        response.description = "ALREADY_QUEUED: already queued" ∧
        ¬ response.DescribesSuccess accepts := by
  refine Exists.imp (fun doc h => ⟨h, ?_⟩) ⟨_, rfl⟩
  have hdeclared : _ ∈ accepts.errors := List.mem_cons_self
  obtain ⟨response, hget, hdescription⟩ := exists_response_of_declared hdeclared
  have hop := operation?_of_build h (List.mem_singleton_self accepts)
  refine ⟨_, response, hop, hget, hdescription, fun hsuccess => ?_⟩
  exact absurd (hdescription.symm.trans hsuccess.description) (by decide)

end Document

end Callpoint
