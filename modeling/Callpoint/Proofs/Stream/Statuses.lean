import Callpoint.Proofs.Document.Paths
import Callpoint.Proofs.Document.Responses
import Callpoint.Proofs.Stream.Delivery

/-!
# Statuses of streams

Every stream is committed with status 200.  Its document lists the stream under the status of
success that the specification gives, unless an error has that status too.  So the two agree exactly
if the status of success is 200 and no error is declared with it (`committed_status_listed_iff`),
which nothing ensures (`committed_status_not_listed`).
-/

namespace Callpoint

/-- **A stream is listed** under a status: the response of that status is a stream of events. -/
def Operation.ListsStream (op : Operation) (status : Nat) : Prop :=
  ∃ response, Assoc.get? op.responses (toString status) = some response ∧
    Document.eventStreamType ∈ response.content.names

namespace Document

/-- Errors are documented as JSON and never as events. -/
theorem eventStreamType_not_mem_errorResponse (group : List Definition) :
    eventStreamType ∉ (errorResponse group).content.names := by
  show eventStreamType ∉ [jsonType]
  decide

/-- The success of a stream is documented as events. -/
theorem eventStreamType_mem_successResponse {spec : Spec} (h : spec.streaming = true) :
    eventStreamType ∈ (successResponse spec).content.names := by
  unfold successResponse
  rw [if_pos h]
  exact List.mem_singleton_self _

/-- The one place where the operation of a stream lists it, if no error has taken it. -/
theorem listsStream_operation_iff {spec : Spec} (hstreaming : spec.streaming = true)
    (bearer : Option String) (status : Nat) :
    (operation bearer spec).ListsStream status ↔
      status = spec.successStatus ∧ ¬ DocumentsStatus spec status := by
  unfold Operation.ListsStream
  show (∃ response, Assoc.get? (responses spec) _ = _ ∧ _) ↔ _
  -- A response under a status is that of success or of errors, and only the first can be a stream.
  rcases get?_responses spec status with ⟨hnone, hget⟩ | ⟨herror, group, -, hget⟩
  · rw [hget]
    by_cases hstatus : status = spec.successStatus
    · rw [if_pos hstatus]
      exact iff_of_true ⟨_, rfl, eventStreamType_mem_successResponse hstreaming⟩ ⟨hstatus, hnone⟩
    · rw [if_neg hstatus]
      refine iff_of_false ?_ fun h => hstatus h.1
      rintro ⟨response, hresponse, -⟩
      cases hresponse
  · rw [hget]
    refine iff_of_false ?_ fun h => h.2 herror
    rintro ⟨response, hresponse, hstream⟩
    obtain rfl := Option.some.inj hresponse
    exact eventStreamType_not_mem_errorResponse group hstream

end Document

/-- The smallest endpoint of a stream: it takes no input, and the stream ends at once. -/
def StreamEndpoint.silent (clauses : List Clause) : StreamEndpoint Unit :=
  .bind (.build "probe" "GET" "/probe" clauses) ⟨.noBody, fun _ => .ok (), ()⟩ .noBody
    fun _ _ => .finish (.ok ())

namespace Service

variable {α : Type} {s : Service} {p : StreamPolicy} {e : StreamEndpoint α} {r : Request}
  {c : Committed}

/-- Behind the gates nothing depends on the specification. -/
theorem status_of_openStream (h : (s.openStream p e r).outcome = .ok c) :
    c.status = committedStatus := by
  obtain ⟨context, x, -, rfl⟩ := passed_of_openStream h
  rfl

/-- **The status of a stream and the one that is documented.**  A document that has an operation for
a stream lists it under the status of success of its specification, or nowhere if an error has that
status.  This is the status with which the stream is committed exactly if it is 200 and no error is
declared with it. -/
theorem committed_status_listed_iff {outline : Outline} {descriptions : Descriptions}
    {specs : List Spec} {doc : Document}
    (hdoc : Document.build outline descriptions specs = .ok doc) (s : Service) (p : StreamPolicy)
    (spec : Spec) (input : InputType α) (event : TypeRef) (callback : Context → α → Callback)
    (hspec : (StreamEndpoint.bind spec input event callback).spec ∈ specs) (r : Request)
    {c : Committed}
    (hc : (s.openStream p (.bind spec input event callback) r).outcome = .ok c) :
    c.status = 200 ∧ ∃ op, doc.operation? spec.method spec.path = some op ∧
      (∀ status, op.ListsStream status ↔ status = spec.successStatus ∧
        ¬ Document.DocumentsStatus (StreamEndpoint.bind spec input event callback).spec status) ∧
      (op.ListsStream c.status ↔
        spec.successStatus = 200 ∧ ∀ d ∈ spec.errors, d.status ≠ 200) := by
  have hstatus : c.status = 200 := status_of_openStream hc
  have hstreaming : (StreamEndpoint.bind spec input event callback).spec.streaming = true := rfl
  have hlists := Document.listsStream_operation_iff hstreaming outline.bearer
  have hop := Document.operation?_of_build hdoc hspec
  refine ⟨hstatus, _, hop, hlists, ?_⟩
  rw [hstatus, hlists, Document.documentsStatus_iff_of_lt (by decide)]
  simp only [not_exists, not_and]
  exact and_congr_left fun _ => eq_comm

/-- The smallest stream is committed with the status that its document lists. -/
theorem committed_status_listed_silent :
    ∃ c, (({} : Service).openStream {} (.silent []) .probe).outcome = .ok c ∧
      ∃ doc, Document.build ⟨⟨"probes", "1", none⟩, [], none⟩ ⟨[]⟩
          [(StreamEndpoint.silent []).spec] = .ok doc ∧
        ∃ op, doc.operation? "GET" "/probe" = some op ∧ op.ListsStream c.status := by
  refine ⟨_, rfl, _, rfl, ?_⟩
  have hdoc : Document.build ⟨⟨"probes", "1", none⟩, [], none⟩ ⟨[]⟩
      [(StreamEndpoint.silent []).spec] = .ok _ := rfl
  obtain ⟨-, op, hop, -, hlisted⟩ := committed_status_listed_iff hdoc {} {}
    (.build "probe" "GET" "/probe" []) ⟨.noBody, fun _ => .ok (), ()⟩ .noBody
    (fun _ _ => .finish (.ok ())) (List.mem_singleton_self _) .probe rfl
  exact ⟨op, hop, hlisted.mpr ⟨rfl, fun _ hd => absurd hd List.not_mem_nil⟩⟩

/-- **The documented status is not kept:** a stream whose specification gives 201 as the status of
success is listed under 201 and committed with 200. -/
theorem committed_status_not_listed :
    ¬ ∀ (s : Service) (p : StreamPolicy) (name method path : String) (clauses : List Clause)
      (input : InputType Unit) (event : TypeRef) (callback : Context → Unit → Callback)
      (r : Request) (c : Committed) (outline : Outline) (descriptions : Descriptions)
      (doc : Document),
      let e := StreamEndpoint.bind (.build name method path clauses) input event callback
      (s.openStream p e r).outcome = .ok c →
      Document.build outline descriptions [e.spec] = .ok doc →
      ∃ op, doc.operation? e.spec.method e.spec.path = some op ∧ op.ListsStream c.status := by
  intro h
  obtain ⟨op, hop, hlists⟩ := h {} {} "probe" "GET" "/probe" [.successStatus 201]
    ⟨.noBody, fun _ => .ok (), ()⟩ .noBody (fun _ _ => .finish (.ok ())) .probe _
    ⟨⟨"probes", "1", none⟩, [], none⟩ ⟨[]⟩ _ rfl rfl
  have hoperation : op = Document.operation none (StreamEndpoint.silent [.successStatus 201]).spec :=
    (Option.some.inj hop).symm
  rw [hoperation, Document.listsStream_operation_iff rfl] at hlists
  exact absurd hlists.1 (by decide)

end Service

end Callpoint
