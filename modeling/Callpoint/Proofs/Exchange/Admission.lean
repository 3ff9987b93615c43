import Callpoint.Proofs.Exchange.Gates

/-!
# Admission

Which requests pass the gates, said without the gates.  `Service.Admits` holds of a request and the
input that its handler receives; `Service.FirstObstacle` holds of a request and the first reason why
its handler does not run, where each reason presupposes that none of the earlier ones applies.

A request is admitted or meets an obstacle (`exists_firstObstacle_or_admits`), and the gates tell
the one from the other (`outcome_passGates_of_admits`, `outcome_passGates_of_firstObstacle`).
-/

namespace Callpoint

/-- **Why a request does not reach the handler.** -/
inductive Obstacle where
  | missingParam (name : String)
  | tooLarge (limit : Nat)
  | unreadable
  | undecodable (reason : String)
  | invalid (violations : List Violation)
  | denied (denial : Denial)

namespace Obstacle

/-- The status of the answer to a request that meets an obstacle. -/
def status : Obstacle → Nat
  | .missingParam _ | .undecodable _ | .invalid _ => 422
  | .tooLarge _ => 413
  | .unreadable => 400
  | .denied denial => denial.status

/-- What the client learns of an obstacle. -/
def error : Obstacle → Definition
  | .missingParam name => Service.missingParamError name
  | .tooLarge limit => Service.tooLargeError limit
  | .unreadable => Service.unreadableError
  | .undecodable reason => Service.undecodableError reason
  | .invalid violations => Errors.validationFailed violations
  | .denied denial => denial.toError

/-- The answer to a request that meets an obstacle.  A denial may come with headers of its own. -/
def response (id : RequestId) : Obstacle → Response
  | .denied denial => Service.denialResponse id denial
  | o => (Response.ofError o.error).withRequestId id

theorem status_error (o : Obstacle) : o.error.status = o.status := by
  cases o with
  | denied denial => cases denial <;> rfl
  | _ => rfl

/-- The headers of a denial do not change its status. -/
theorem status_denialResponse (id : RequestId) (d : Denial) :
    (Service.denialResponse id d).status = d.status := by
  have hbare : ((Response.ofError d.toError).withRequestId id).status = d.status :=
    status_error (.denied d)
  unfold Service.denialResponse
  -- The headers are added one by one, and none of them changes the status.
  exact List.foldlRecOn d.headers _ (motive := fun r : Response => r.status = d.status)
    hbare fun r hr line hline => hr

theorem status_response (o : Obstacle) (id : RequestId) : (o.response id).status = o.status := by
  cases o with
  | denied denial => exact status_denialResponse id denial
  | _ => rfl

end Obstacle

namespace Service

variable {α : Type}

section Relations

variable (s : Service) (spec : Spec) (input : InputType α) (r : Request)

/-- **The router matched every path parameter** that is declared. -/
def ParamsMatched : Prop := ∀ name ∈ spec.pathParams, name ∈ r.params.map Prod.fst

/-- **The input of a request.** An endpoint without an input ignores the body, no bytes stand for
the empty input, and all else is decoded from a value that the validator accepts. -/
inductive Reads : α → Prop
  | ignored (hplace : spec.input.placeholder = true) : Reads input.empty
  | absent (hplace : spec.input.placeholder = false)
      (hread : r.body.read s.policy.bodyLimit = .ok []) : Reads input.empty
  | decoded {bytes : Bytes} {value : Json} {x : α} (hplace : spec.input.placeholder = false)
      (hread : r.body.read s.policy.bodyLimit = .ok bytes) (hne : bytes ≠ [])
      (hparse : Json.parse bytes = .ok value) (hdecode : input.decode value = .ok x)
      (haccept : s.validator spec.input.name value = .ok ()) : Reads x

/-- **What keeps a body from being an input.** -/
inductive BodyObstacle : Obstacle → Prop
  | tooLarge {limit : Nat} (hread : r.body.read s.policy.bodyLimit = .error (.tooLarge limit)) :
      BodyObstacle (.tooLarge limit)
  | unreadable {reason : String}
      (hread : r.body.read s.policy.bodyLimit = .error (.unreadable reason)) :
      BodyObstacle .unreadable
  | malformed {bytes : Bytes} {fault : Json.Fault}
      (hread : r.body.read s.policy.bodyLimit = .ok bytes) (hne : bytes ≠ [])
      (hparse : Json.parse bytes = .error fault) :
      BodyObstacle (.undecodable (fault.describe bytes))
  | mistyped {bytes : Bytes} {value : Json} {reason : String}
      (hread : r.body.read s.policy.bodyLimit = .ok bytes) (hne : bytes ≠ [])
      (hparse : Json.parse bytes = .ok value) (hdecode : input.decode value = .error reason) :
      BodyObstacle (.undecodable reason)
  | invalid {bytes : Bytes} {value : Json} {x : α} {violations : List Violation}
      (hread : r.body.read s.policy.bodyLimit = .ok bytes) (hne : bytes ≠ [])
      (hparse : Json.parse bytes = .ok value) (hdecode : input.decode value = .ok x)
      (hrules : s.validator spec.input.name value = .error violations) :
      BodyObstacle (.invalid violations)

/-- Who makes a request; a request without an identity is anonymous. -/
def caller : Identity := r.identity.getD .anonymous

/-- **A request that may be answered by the handler,** and the input it comes with. -/
structure Admits (x : α) : Prop where
  params : ParamsMatched spec r
  input : s.Reads spec input r x
  access : authorize spec.access (caller r) = .ok ()

/-- **The first obstacle** on the way of a request to the handler. -/
inductive FirstObstacle : Obstacle → Prop
  | params {name : String} {before after : List String}
      (hsplit : spec.pathParams = before ++ name :: after)
      (hbefore : ∀ n ∈ before, n ∈ r.params.map Prod.fst) (hname : name ∉ r.params.map Prod.fst) :
      FirstObstacle (.missingParam name)
  | body {o : Obstacle} (hparams : ParamsMatched spec r) (hplace : spec.input.placeholder = false)
      (hbody : s.BodyObstacle spec input r o) : FirstObstacle o
  | access {x : α} {denial : Denial} (hparams : ParamsMatched spec r)
      (hinput : s.Reads spec input r x)
      (hdenied : authorize spec.access (caller r) = .error denial) :
      FirstObstacle (.denied denial)

/-- The context in which the handler answers a request. -/
def contextOf : Context :=
  ⟨s.requestId r, spec.name, r.params ++ boundQuery spec r.queryPairs, caller r,
    r.cancelled.getD false⟩

end Relations

variable {s : Service} {id : RequestId} {spec : Spec} {input : InputType α} {r : Request}

/-! ### No third case -/

theorem exists_bodyObstacle_or_reads (s : Service) (spec : Spec) (input : InputType α)
    (r : Request) :
    (spec.input.placeholder = false ∧ ∃ o, s.BodyObstacle spec input r o) ∨
      ∃ x, s.Reads spec input r x := by
  -- The cases follow the way of the body: read, parsed, decoded, validated.
  cases hplace : spec.input.placeholder with
  | true => exact Or.inr ⟨_, .ignored hplace⟩
  | false =>
    cases hread : r.body.read s.policy.bodyLimit with
    | error fault =>
      cases fault with
      | tooLarge limit => exact Or.inl ⟨rfl, _, .tooLarge hread⟩
      | unreadable reason => exact Or.inl ⟨rfl, _, .unreadable hread⟩
    | ok bytes =>
      by_cases hne : bytes = []
      · subst hne
        exact Or.inr ⟨_, .absent hplace hread⟩
      cases hparse : Json.parse bytes with
      | error fault => exact Or.inl ⟨rfl, _, .malformed hread hne hparse⟩
      | ok value =>
        cases hdecode : input.decode value with
        | error reason => exact Or.inl ⟨rfl, _, .mistyped hread hne hparse hdecode⟩
        | ok x =>
          cases hrules : s.validator spec.input.name value with
          | error violations => exact Or.inl ⟨rfl, _, .invalid hread hne hparse hdecode hrules⟩
          | ok _ => exact Or.inr ⟨x, .decoded hplace hread hne hparse hdecode hrules⟩

theorem exists_firstObstacle_or_admits (s : Service) (spec : Spec) (input : InputType α)
    (r : Request) :
    (∃ o, s.FirstObstacle spec input r o) ∨ ∃ x, s.Admits spec input r x := by
  cases hmissing : missingParam? spec r.params with
  | some name =>
    obtain ⟨hname, before, after, hsplit, hbefore⟩ :=
      (missingParam?_eq_some_iff spec r.params name).mp hmissing
    exact Or.inl ⟨_, .params hsplit hbefore hname⟩
  | none =>
    have hparams : ParamsMatched spec r := (missingParam?_eq_none_iff spec r.params).mp hmissing
    rcases exists_bodyObstacle_or_reads s spec input r with ⟨hplace, o, hbody⟩ | ⟨x, hinput⟩
    · exact Or.inl ⟨o, .body hparams hplace hbody⟩
    cases haccess : authorize spec.access (caller r) with
    | error denial => exact Or.inl ⟨_, .access hparams hinput haccess⟩
    | ok _ => exact Or.inr ⟨x, hparams, hinput, haccess⟩

/-! ### The gates decide admission -/

theorem outcome_readInput_of_reads {x : α} (h : s.Reads spec input r x) :
    (s.readInput id spec input r).outcome = .ok x := by
  unfold readInput
  cases h with
  | ignored hplace =>
    rw [hplace]
    rfl
  | absent hplace hread =>
    rw [hplace]
    exact (Course.outcome_bind_ok _ (outcome_readBody_ok hread)).trans outcome_decodeBody_nil
  | decoded hplace hread hne hparse hdecode haccept =>
    rw [hplace]
    exact (Course.outcome_bind_ok _ (outcome_readBody_ok hread)).trans
      (outcome_decodeBody_ok hne (decodeBytes_of_decoded hparse hdecode) haccept)

theorem outcome_readInput_of_bodyObstacle {o : Obstacle} (hplace : spec.input.placeholder = false)
    (h : s.BodyObstacle spec input r o) :
    (s.readInput id spec input r).outcome = .error (o.response id) := by
  unfold readInput
  rw [hplace]
  cases h with
  | tooLarge hread => exact Course.outcome_bind_error _ (outcome_readBody_tooLarge hread)
  | unreadable hread => exact Course.outcome_bind_error _ (outcome_readBody_unreadable hread)
  | malformed hread hne hparse =>
    exact (Course.outcome_bind_ok _ (outcome_readBody_ok hread)).trans
      (outcome_decodeBody_error hne (decodeBytes_of_malformed hparse))
  | mistyped hread hne hparse hdecode =>
    exact (Course.outcome_bind_ok _ (outcome_readBody_ok hread)).trans
      (outcome_decodeBody_error hne (decodeBytes_of_mistyped hparse hdecode))
  | invalid hread hne hparse hdecode hrules =>
    exact (Course.outcome_bind_ok _ (outcome_readBody_ok hread)).trans
      (outcome_decodeBody_invalid hne (decodeBytes_of_decoded hparse hdecode) hrules)

theorem outcome_bindParams_of_matched (h : ParamsMatched spec r) :
    (bindParams id spec r : Course α Response Params).outcome
      = .ok (r.params ++ boundQuery spec r.queryPairs) :=
  outcome_bindParams_none ((missingParam?_eq_none_iff spec r.params).mpr h)

/-- An admitted request passes, with its input and the context for it. -/
theorem outcome_passGates_of_admits {x : α} (h : s.Admits spec input r x) :
    (s.passGates spec input r).outcome = .ok (s.contextOf spec r, x) := by
  unfold passGates
  rw [Course.outcome_bind_ok _ (outcome_bindParams_of_matched h.params),
    Course.outcome_bind_ok _ (outcome_readInput_of_reads h.input)]
  exact Course.outcome_bind_ok _ (outcome_checkAccess_ok h.access)

/-- A request that meets an obstacle is answered by the gate that stands for it. -/
theorem outcome_passGates_of_firstObstacle {o : Obstacle} (h : s.FirstObstacle spec input r o) :
    (s.passGates spec input r).outcome = .error (o.response (s.requestId r)) := by
  unfold passGates
  cases h with
  | params hsplit hbefore hname =>
    have hmissing := (missingParam?_eq_some_iff spec r.params _).mpr
      ⟨hname, _, _, hsplit, hbefore⟩
    exact Course.outcome_bind_error _ (outcome_bindParams_some hmissing)
  | body hparams hplace hbody =>
    rw [Course.outcome_bind_ok _ (outcome_bindParams_of_matched hparams)]
    exact Course.outcome_bind_error _ (outcome_readInput_of_bodyObstacle hplace hbody)
  | access hparams hinput hdenied =>
    rw [Course.outcome_bind_ok _ (outcome_bindParams_of_matched hparams),
      Course.outcome_bind_ok _ (outcome_readInput_of_reads hinput)]
    exact Course.outcome_bind_error _ (outcome_checkAccess_error hdenied)

/-- Only a request that is admitted passes, and the handler gets its context. -/
theorem admits_of_passed {c : Context} {x : α}
    (h : (s.passGates spec input r).outcome = .ok (c, x)) :
    s.Admits spec input r x ∧ c = s.contextOf spec r := by
  rcases exists_firstObstacle_or_admits s spec input r with ⟨o, ho⟩ | ⟨y, hy⟩
  · rw [outcome_passGates_of_firstObstacle ho] at h
    cases h
  · rw [outcome_passGates_of_admits hy] at h
    obtain ⟨rfl, rfl⟩ := Prod.mk.inj (Except.ok.inj h)
    exact ⟨hy, rfl⟩

/-- Only a request that meets an obstacle is stopped. -/
theorem exists_firstObstacle_of_stopped {response : Response}
    (h : (s.passGates spec input r).outcome = .error response) :
    ∃ o, s.FirstObstacle spec input r o ∧ response = o.response (s.requestId r) := by
  rcases exists_firstObstacle_or_admits s spec input r with ⟨o, ho⟩ | ⟨x, hx⟩
  · rw [outcome_passGates_of_firstObstacle ho] at h
    exact ⟨o, ho, (Except.error.inj h).symm⟩
  · rw [outcome_passGates_of_admits hx] at h
    cases h

end Service

end Callpoint
