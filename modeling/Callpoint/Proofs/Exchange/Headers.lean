import Callpoint.Proofs.Exchange.Reach
import Callpoint.Proofs.Http.Headers

/-!
# Headers of answers

An answer is one of two kinds.  If the handler came to an output that can be sent, the service sets
the type of the body, if there is one, and the identifier of the request, and merges these lines
with the default headers (`merges_of_succeeds`).  Every other answer has the lines that the service
sets and nothing else, whatever the default headers are (`plain_of_not_succeeds`).  The gates answer
in the second way, so this holds of streams that are not opened, too (`plain_of_stopped`).

Either way the identifier is told once (`values_id_serve`).  It is the one that came with the
request if the service trusts it, and a fresh one otherwise (`identifies_iff`).
-/

namespace Callpoint

open Callpoint.Http

/-! ### The lines that a service sets -/

namespace Response

/-- The line that tells the identifier of a request. -/
def idLine (id : RequestId) : String × HeaderValue := ("x-request-id", Text.encode id.text)

/-- The line that tells that a body is JSON. -/
def jsonLine : String × HeaderValue := ("content-type", Text.encode "application/json")

/-- **The headers of an answer that is no success:** its type, the identifier of the request, and
those that go with a denial. -/
inductive Plain (id : RequestId) : Headers → Prop
  | error : Plain id [jsonLine, idLine id]
  | denied (d : Denial) :
      Plain id ([jsonLine, idLine id]
        ++ d.headers.map fun (name, value) => (name, Text.encode value))

/-- An answer that is no success tells the identifier once. -/
theorem Plain.values_id {id : RequestId} {h : Headers} (hplain : Plain id h) :
    h.values "x-request-id" = [Text.encode id.text] := by
  cases hplain with
  | error => rfl
  | denied d => cases d <;> rfl

theorem plain_ofError (d : Definition) (id : RequestId) :
    Plain id ((ofError d).withRequestId id).headers := .error

end Response

open Response (Plain plain_ofError)

/-- Whatever keeps a request from the handler is answered without default headers. -/
theorem Obstacle.plain_response (o : Obstacle) (id : RequestId) :
    Plain id (o.response id).headers := by
  cases o with
  | denied d =>
    have hlines : (Service.denialResponse id d).headers
        = [Response.jsonLine, Response.idLine id]
          ++ d.headers.map fun (name, value) => (name, Text.encode value) := by
      cases d <;> rfl
    show Plain id (Service.denialResponse id d).headers
    rw [hlines]
    exact .denied d
  | missingParam | tooLarge | unreadable | undecodable | invalid => exact plain_ofError _ id

/-- **The headers that an endpoint's success comes with,** apart from default headers. -/
def Endpoint.ownHeaders {α β : Type} (e : Endpoint α β) (id : RequestId) : Headers :=
  if e.spec.output.placeholder then [Response.idLine id]
  else [Response.jsonLine, Response.idLine id]

/-- **A request carries an identifier:** its first identifier line is a text that writes it. -/
def Request.Carries (r : Request) (id : RequestId) : Prop :=
  ∃ value rest text, r.headers.values "x-request-id" = value :: rest ∧
    Headers.text? value = some text ∧ RequestId.parse? text = some id

/-- A request carries the identifier that is read from it, if one is. -/
theorem Request.carries_iff {r : Request} {id : RequestId} :
    r.Carries id ↔ r.inboundId? = some id := by
  unfold Carries inboundId? Headers.getText? Headers.get? idHeader
  cases r.headers.values "x-request-id" with
  | nil => simp
  | cons value rest => simp [Option.bind_eq_some_iff]

namespace Service

variable {α β : Type} {s : Service} {e : Endpoint α β} {r : Request}

section Relations

variable (s : Service) (e : Endpoint α β)

/-- **An output can be sent:** there is nothing to be sent, or it has an encoding that the service
does not refuse. -/
inductive Encodes (y : β) : Prop
  | nothing (hplace : e.spec.output.placeholder = true)
  | body {value : Json} (hplace : e.spec.output.placeholder = false)
      (hencode : e.output.encode y = .ok value)
      (haccept : s.policy.validateOutput = true →
        s.validator e.spec.output.name value = .ok ())

/-- **A request has success:** its handler is called and comes to an output that can be sent. -/
def Succeeds (r : Request) : Prop :=
  ∃ c x y, (c, x) ∈ Event.calls (s.serve e r).1 ∧ e.handler c x = .ok y ∧ s.Encodes e y

/-- **What a service knows a request by:** the identifier that comes with it, if there is one and
the service trusts it, and a fresh one otherwise. -/
inductive Identifies (r : Request) : RequestId → Prop
  | carried {id : RequestId} (htrust : s.policy.trustRequestId = true) (hcarries : r.Carries id) :
      Identifies r id
  | fresh (hnone : s.policy.trustRequestId = true → ∀ id, ¬ r.Carries id) : Identifies r s.freshId

end Relations

/-! ### What the gates leave behind -/

/-- The handler knows a request by the identifier that is sent with the answer. -/
theorem requestId_of_passed {spec : Spec} {input : InputType α} {c : Context} {x : α}
    (h : (s.passGates spec input r).outcome = .ok (c, x)) : c.requestId = s.requestId r := by
  obtain ⟨-, rfl⟩ := admits_of_passed h
  rfl

/-- A gate that stays shut answers without default headers. -/
theorem plain_of_stopped {spec : Spec} {input : InputType α} {response : Response}
    (h : (s.passGates spec input r).outcome = .error response) :
    Plain (s.requestId r) response.headers := by
  obtain ⟨o, -, rfl⟩ := exists_firstObstacle_of_stopped h
  exact o.plain_response _

/-- The handler that was called knows the request by its identifier. -/
theorem requestId_of_mem_calls {c : Context} {x : α} (h : (c, x) ∈ Event.calls (s.serve e r).1) :
    c.requestId = s.requestId r :=
  requestId_of_passed (outcome_passGates_of_mem_calls h)

/-! ### Answers to what a handler returns -/

/-- An output can be sent exactly if it is delivered in some response. -/
theorem encodes_iff {y : β} : s.Encodes e y ↔ ∃ response, s.Delivers e y response := by
  constructor
  · rintro (hplace | ⟨hplace, hencode, haccept⟩)
    · exact ⟨_, .empty hplace⟩
    · exact ⟨_, .body hplace hencode haccept⟩
  · rintro ⟨response, hplace | ⟨hplace, hencode, haccept⟩⟩
    · exact .nothing hplace
    · exact .body hplace hencode haccept

/-- What is delivered has the lines of the service, merged with the default ones. -/
theorem merges_of_delivers {y : β} {response : Response} (h : s.Delivers e y response)
    (id : RequestId) : Headers.Merges (e.ownHeaders id) s.policy.defaultHeaders
      (response.withRequestId id).headers := by
  -- The identifier is set after the merge, as if it had been there before.
  unfold Endpoint.ownHeaders
  cases h with
  | empty hplace =>
    rw [hplace]
    exact (Headers.merges_addMissing [] s.policy.defaultHeaders).insert _ _
  | body hplace _ _ =>
    rw [hplace]
    exact (Headers.merges_addMissing [Response.jsonLine] s.policy.defaultHeaders).insert _ _

/-- **Success comes with the default headers,** merged with those that the service sets. -/
theorem merges_of_succeeds (h : s.Succeeds e r) :
    Headers.Merges (e.ownHeaders (s.requestId r)) s.policy.defaultHeaders
      (s.serve e r).2.response.headers := by
  obtain ⟨c, x, y, hcall, hok, hencodes⟩ := h
  obtain ⟨response, hdelivers⟩ := encodes_iff.mp hencodes
  have hanswer := outcome_respond_of_delivers hdelivers
  rw [← hok] at hanswer
  rw [served_of_mem_calls hcall hanswer, ← requestId_of_mem_calls hcall]
  exact merges_of_delivers hdelivers c.requestId

/-- **All else comes without them.** -/
theorem plain_of_not_succeeds (h : ¬ s.Succeeds e r) :
    Plain (s.requestId r) (s.serve e r).2.response.headers := by
  cases hgates : (s.passGates e.spec e.input r).outcome with
  | error response =>
    rw [(serve_of_stopped hgates).2]
    exact plain_of_stopped hgates
  | ok passed =>
    obtain ⟨c, x⟩ := passed
    rw [← requestId_of_passed hgates]
    -- Behind the gates a handler delivers, or it fails, openly or not; to deliver would be success.
    rcases exists_delivers_or_hidden_or_declared s e (e.handler c x) with
      ⟨y, response, hok, hdelivers⟩ | hhidden | ⟨chain, t, herror, ht, hcode⟩
    · obtain ⟨answer, hanswer⟩ := exists_outcome_respond s e (e.handler c x)
      have hcall : (c, x) ∈ Event.calls (s.serve e r).1 := by
        rw [(serve_of_passed hgates hanswer).1]
        exact List.mem_singleton_self _
      exact absurd ⟨c, x, y, hcall, hok, encodes_iff.mpr ⟨response, hdelivers⟩⟩ h
    · obtain ⟨failure, hanswer⟩ := outcome_respond_of_hidden hhidden
      rw [(serve_of_passed hgates hanswer).2]
      exact plain_ofError _ c.requestId
    · have hanswer := outcome_respond_of_declared (s := s) ht hcode
      rw [← herror] at hanswer
      rw [(serve_of_passed hgates hanswer).2]
      exact plain_ofError _ c.requestId

/-! ### Identifiers -/

/-- A request is known by one identifier only. -/
theorem identifies_iff (s : Service) (r : Request) (id : RequestId) :
    s.Identifies r id ↔ id = s.requestId r := by
  unfold requestId
  constructor
  · rintro (⟨htrust, hcarries⟩ | hnone)
    · rw [if_pos htrust, Request.carries_iff.mp hcarries]
      rfl
    · split
      · next htrust =>
        have hinbound : r.inboundId? = none :=
          Option.eq_none_iff_forall_ne_some.mpr fun other hother =>
            hnone htrust other (Request.carries_iff.mpr hother)
        rw [hinbound]
        rfl
      · rfl
  · rintro rfl
    split
    · next htrust =>
      cases hinbound : r.inboundId? with
      | none =>
        refine .fresh fun _ other hcarries => ?_
        rw [Request.carries_iff.mp hcarries] at hinbound
        cases hinbound
      | some other => exact .carried htrust (Request.carries_iff.mpr hinbound)
    · next htrust => exact .fresh fun htrusted => absurd htrusted htrust

/-- Default headers do not touch the line of the identifier, since the service has set it. -/
theorem values_id_of_merges {own more h : Headers} {id : RequestId}
    (hmerges : own.Merges more h) (hown : own.values "x-request-id" = [Text.encode id.text]) :
    h.values "x-request-id" = [Text.encode id.text] := by
  have hhas : own.contains "x-request-id" = true := by
    rw [Headers.contains_iff, hown]
    exact List.cons_ne_nil _ _
  rw [hmerges, if_pos hhas, hown]

theorem values_id_ownHeaders (e : Endpoint α β) (id : RequestId) :
    (e.ownHeaders id).values "x-request-id" = [Text.encode id.text] := by
  unfold Endpoint.ownHeaders
  split <;> rfl

/-- **Every answer tells the identifier of its request,** once. -/
theorem values_id_serve (s : Service) (e : Endpoint α β) (r : Request) :
    (s.serve e r).2.response.headers.values "x-request-id"
      = [Text.encode (s.requestId r).text] := by
  by_cases h : s.Succeeds e r
  · exact values_id_of_merges (merges_of_succeeds h) (values_id_ownHeaders e _)
  · exact (plain_of_not_succeeds h).values_id

end Service

end Callpoint
