import Callpoint.Proofs.Exchange.Answers

/-!
# Reaching the handler

Serving a request calls the handler exactly for the requests that are admitted, once and with the
input that they are admitted with; every other request is answered for the first obstacle it meets
(`serve_reaches_handler_iff`).
-/

namespace Callpoint

/-- The smallest endpoint: it takes no input, answers without a body, and its handler always comes
to the same. -/
def Endpoint.always (clauses : List Clause) (outcome : Except Chain Unit) : Endpoint Unit Unit :=
  .bind (.build "probe" "GET" "/probe" clauses) ⟨.noBody, fun _ => .ok (), ()⟩
    ⟨.noBody, fun _ => .ok .null⟩ fun _ _ => outcome

/-- A request for the smallest endpoint. -/
def Request.probe : Request where
  method := "GET"
  uri := ⟨none, none, "/probe".toList, none⟩

namespace Service

variable {α β : Type} {s : Service} {e : Endpoint α β} {r : Request} {c : Context} {x : α}

theorem calls_of_admits (h : s.Admits e.spec e.input r x) :
    Event.calls (s.serve e r).1 = [(s.contextOf e.spec r, x)] := by
  obtain ⟨answer, hanswer⟩ := exists_outcome_respond s e (e.handler (s.contextOf e.spec r) x)
  exact (serve_of_passed (outcome_passGates_of_admits h) hanswer).1

theorem serve_of_firstObstacle {o : Obstacle} (h : s.FirstObstacle e.spec e.input r o) :
    Event.calls (s.serve e r).1 = [] ∧ (s.serve e r).2 = ⟨o.response (s.requestId r), none⟩ :=
  serve_of_stopped (outcome_passGates_of_firstObstacle h)

theorem admits_of_mem_calls (h : (c, x) ∈ Event.calls (s.serve e r).1) :
    s.Admits e.spec e.input r x :=
  (admits_of_passed (outcome_passGates_of_mem_calls h)).1

theorem length_calls_le_one (s : Service) (e : Endpoint α β) (r : Request) :
    (Event.calls (s.serve e r).1).length ≤ 1 := by
  rcases exists_firstObstacle_or_admits s e.spec e.input r with ⟨o, ho⟩ | ⟨x, hx⟩
  · rw [(serve_of_firstObstacle ho).1]
    exact Nat.zero_le 1
  · rw [calls_of_admits hx]
    exact Nat.le_refl 1

/-- Without a call there is an obstacle, and the answer is the one for it. -/
theorem exists_firstObstacle_of_calls_eq_nil (h : Event.calls (s.serve e r).1 = []) :
    ∃ o, s.FirstObstacle e.spec e.input r o ∧
      (s.serve e r).2 = ⟨o.response (s.requestId r), none⟩ := by
  rcases exists_firstObstacle_or_admits s e.spec e.input r with ⟨o, ho⟩ | ⟨x, hx⟩
  · exact ⟨o, ho, (serve_of_firstObstacle ho).2⟩
  · rw [calls_of_admits hx] at h
    cases h

/-- An endpoint without an input does not look at the body. -/
theorem passGates_with_body (hplace : e.spec.input.placeholder = true) (body : Body) :
    s.passGates e.spec e.input { r with body := body } = s.passGates e.spec e.input r := by
  unfold passGates readInput
  rw [hplace]
  rfl

/-- Nothing keeps a request from the smallest endpoint unless a clause demands something. -/
theorem mem_calls_probe (s : Service) (clauses : List Clause) (outcome : Except Chain Unit)
    (hparams : (Endpoint.always clauses outcome).spec.pathParams = [])
    (hauth : (Endpoint.always clauses outcome).spec.access.authRequired = false) :
    (s.contextOf (Endpoint.always clauses outcome).spec .probe, ())
      ∈ Event.calls (s.serve (.always clauses outcome) .probe).1 := by
  have hadmits : s.Admits (Endpoint.always clauses outcome).spec
      (Endpoint.always clauses outcome).input .probe () := by
    refine ⟨fun name hname => ?_, .ignored rfl, ?_⟩
    · rw [hparams] at hname
      cases hname
    · unfold authorize
      rw [hauth]
      rfl
  rw [calls_of_admits hadmits]
  exact List.mem_singleton_self _

/-- **The handler is behind the gates.**  Serving a request calls the handler at most once, and it
calls it with an input exactly if the request is admitted with that input.  The answers without a
call are exactly the answers for the first obstacle, each with its status and without a failure.
Where the specification has no input, the whole course is the same for every body. -/
theorem serve_reaches_handler_iff (s : Service) (e : Endpoint α β) (r : Request) :
    (Event.calls (s.serve e r).1).length ≤ 1 ∧
    (∀ x, (∃ c, (c, x) ∈ Event.calls (s.serve e r).1) ↔ s.Admits e.spec e.input r x) ∧
    (∀ answer, (Event.calls (s.serve e r).1 = [] ∧ (s.serve e r).2 = answer) ↔
      ∃ o, s.FirstObstacle e.spec e.input r o ∧ answer.response = o.response (s.requestId r) ∧
        answer.response.status = o.status ∧ answer.failure = none) ∧
    (e.spec.input.placeholder = true →
      ∀ body, s.serve e { r with body := body } = s.serve e r) := by
  refine ⟨length_calls_le_one s e r, fun x => ⟨?_, ?_⟩, fun answer => ⟨?_, ?_⟩, ?_⟩
  · rintro ⟨c, h⟩
    exact admits_of_mem_calls h
  · intro h
    exact ⟨_, by rw [calls_of_admits h]; exact List.mem_singleton_self _⟩
  · rintro ⟨hcalls, rfl⟩
    obtain ⟨o, ho, hanswer⟩ := exists_firstObstacle_of_calls_eq_nil hcalls
    rw [hanswer]
    exact ⟨o, ho, rfl, o.status_response _, rfl⟩
  · rintro ⟨o, ho, hresponse, -, hfailure⟩
    obtain ⟨hcalls, hserved⟩ := serve_of_firstObstacle ho
    refine ⟨hcalls, ?_⟩
    rw [hserved, ← hresponse, ← hfailure]
  · intro hplace body
    unfold serve course
    rw [passGates_with_body hplace body]

/-- A body that breaks off and is announced as endless does not keep a request from an endpoint that
takes no input. -/
theorem serve_probe_with_broken_body :
    (Endpoint.always [] (.ok ())).spec.input.placeholder = true ∧
      ({} : Service).serve (.always [] (.ok ()))
          { Request.probe with
            body := ⟨[.error (.transport "connection reset")], 0xFFFFFFFFFFFFFFFF⟩ }
        = ({} : Service).serve (.always [] (.ok ())) Request.probe :=
  ⟨rfl, (serve_reaches_handler_iff {} (.always [] (.ok ())) .probe).2.2.2 rfl _⟩

end Service

end Callpoint
