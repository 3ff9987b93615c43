import Callpoint.Observer
import Callpoint.Proofs.Exchange.Reach

/-!
# Traces of calls

Which signals a call gives rise to, and in what order.  The grammar of traces follows the gates:
each of them has its own signals when it opens and when it stays shut, and what is behind a shut
gate is silent but for the signal of the response (`Course.Traces`).  Behind the gates there is one
signal for what the handler returned, or two, and the signal of the response
(`Service.callTrace_serve`).
-/

namespace Callpoint

/-! ### The grammar -/

/-- **The signals of the first gate,** and whether it opens. -/
inductive ParamsTrace : Bool → List Signal → Prop
  | missing (name : String) : ParamsTrace false [.paramMissing name]
  | bound (count : Nat) : ParamsTrace true [.paramsBound count]

/-- **The signals of the second gate.** -/
inductive BodyTrace : Bool → List Signal → Prop
  | tooLarge (limit : Nat) : BodyTrace false [.bodyTooLarge limit]
  | unreadable (reason : String) : BodyTrace false [.bodyReadFailed reason]
  | read (bytes : Nat) : BodyTrace true [.bodyRead bytes]

/-- **The signals of the third and the fourth gate.** -/
inductive DecodeTrace : Bool → List Signal → Prop
  | skipped : DecodeTrace true [.decodeSkipped]
  | failed (reason : String) : DecodeTrace false [.decodeFailed reason]
  | invalid (violations : Nat) : DecodeTrace false [.decoded, .validationFailed violations]
  | validated : DecodeTrace true [.decoded, .validated]

/-- **The signals of an input.** There are none if the endpoint takes none. -/
inductive InputTrace (placeholder : Bool) : Bool → List Signal → Prop
  | ignored (h : placeholder = true) : InputTrace placeholder true []
  | body (h : placeholder = false) {t : List Signal} (ht : BodyTrace false t) :
      InputTrace placeholder false t
  | decode (h : placeholder = false) {t u : List Signal} {passed : Bool} (ht : BodyTrace true t)
      (hu : DecodeTrace passed u) : InputTrace placeholder passed (t ++ u)

/-- **The signals of the last gate.** A denial tells the status of the response. -/
inductive AccessTrace (status : Nat) : Bool → List Signal → Prop
  | admitted (authenticated : Bool) : AccessTrace status true [.identityResolved authenticated]
  | denied (authenticated : Bool) (reason : String) :
      AccessTrace status false [.identityResolved authenticated, .accessDenied status reason]

/-- **The signals of the gates behind the first one.** -/
inductive AdmissionTrace (placeholder : Bool) (status : Nat) : Bool → List Signal → Prop
  | input {t : List Signal} (ht : InputTrace placeholder false t) :
      AdmissionTrace placeholder status false t
  | access {t u : List Signal} {passed : Bool} (ht : InputTrace placeholder true t)
      (hu : AccessTrace status passed u) : AdmissionTrace placeholder status passed (t ++ u)

/-- **The signals of all gates.** -/
inductive GatesTrace (placeholder : Bool) (status : Nat) : Bool → List Signal → Prop
  | params {t : List Signal} (ht : ParamsTrace false t) : GatesTrace placeholder status false t
  | admission {t u : List Signal} {passed : Bool} (ht : ParamsTrace true t)
      (hu : AdmissionTrace placeholder status passed u) :
      GatesTrace placeholder status passed (t ++ u)

/-- **The signals of what the handler returned.** A declared error tells the status of the
response. -/
inductive AnswerTrace (status : Nat) : List Signal → Prop
  | succeeded : AnswerTrace status [.handlerSucceeded]
  | invalid (violations : Nat) :
      AnswerTrace status [.handlerSucceeded, .outputValidationFailed violations]
  | unencodable (reason : String) : AnswerTrace status [.handlerSucceeded, .encodeFailed reason]
  | declared (code : String) : AnswerTrace status [.declaredError code status]
  | undeclared (code : String) : AnswerTrace status [.undeclaredError code]
  | failed (reason : String) : AnswerTrace status [.handlerFailed reason]

/-- **The signals of a call** that is answered with a status. -/
inductive CallTrace (placeholder : Bool) (status : Nat) : List Signal → Prop
  | rejected {t : List Signal} (ht : GatesTrace placeholder status false t) :
      CallTrace placeholder status (t ++ [.responseWritten status])
  | answered {t u : List Signal} (ht : GatesTrace placeholder status true t)
      (hu : AnswerTrace status u) :
      CallTrace placeholder status (t ++ u ++ [.responseWritten status])

namespace Event

variable {α : Type}

theorem signals_append (xs ys : List (Event α)) :
    signals (xs ++ ys) = signals xs ++ signals ys := by
  unfold signals
  rw [List.filterMap_append]

end Event

/-! ### Stretches -/

namespace Course

variable {α β γ : Type} {T T' T'' : Nat → Bool → List Signal → Prop}

/-- **The signals of a stretch are as they should be:** if it ends with a response, the signals that
stand for a shut gate with the status of the response, and that of the response itself; else those
that stand for an open gate. -/
def Traces (c : Course α Response β) (T : Nat → Bool → List Signal → Prop) : Prop :=
  match c.outcome with
  | .ok _ => ∀ status, T status true (Event.signals c.events)
  | .error response => ∃ t, T response.status false t ∧
      Event.signals c.events = t ++ [.responseWritten response.status]

/-- Of a stretch that does not end the course the signals are those of an open gate. -/
theorem traces_of_ok {c : Course α Response β} {b : β} (h : c.outcome = .ok b) :
    c.Traces T ↔ ∀ status, T status true (Event.signals c.events) := by
  unfold Traces
  rw [h]

/-- Of one that ends it they are those of a shut gate, and the signal of the response is behind
them. -/
theorem traces_of_error {c : Course α Response β} {response : Response}
    (h : c.outcome = .error response) :
    c.Traces T ↔ ∃ t, T response.status false t ∧
      Event.signals c.events = t ++ [.responseWritten response.status] := by
  unfold Traces
  rw [h]

theorem traces_pure {b : β} (h : ∀ status, T status true []) :
    Traces (Pure.pure b : Course α Response β) T := h

/-- One stretch after another: the second is silent if the first one ended the course. -/
theorem Traces.bind {c : Course α Response β} {f : β → Course α Response γ} (hc : c.Traces T)
    (hf : ∀ b, (f b).Traces T') (hshut : ∀ status t, T status false t → T'' status false t)
    (hopen : ∀ status passed t u, (∀ status, T status true t) → T' status passed u →
      T'' status passed (t ++ u)) : (c >>= f).Traces T'' := by
  -- Whether the second stretch starts at all is decided by the outcome of the first.
  cases houtcome : c.outcome with
  | error response =>
    rw [traces_of_error houtcome] at hc
    rw [traces_of_error (outcome_bind_error f houtcome), events_bind_error f houtcome]
    obtain ⟨t, ht, hsignals⟩ := hc
    exact ⟨t, hshut _ t ht, hsignals⟩
  | ok b =>
    rw [traces_of_ok houtcome] at hc
    have hrest := hf b
    cases hnext : (f b).outcome with
    | error response =>
      rw [traces_of_error hnext] at hrest
      rw [traces_of_error ((outcome_bind_ok f houtcome).trans hnext), events_bind_ok f houtcome,
        Event.signals_append]
      obtain ⟨u, hu, hsignals⟩ := hrest
      exact ⟨_ ++ u, hopen _ _ _ _ hc hu, by rw [hsignals, List.append_assoc]⟩
    | ok d =>
      rw [traces_of_ok hnext] at hrest
      rw [traces_of_ok ((outcome_bind_ok f houtcome).trans hnext), events_bind_ok f houtcome,
        Event.signals_append]
      exact fun status => hopen _ _ _ _ hc (hrest status)

/-- A signal stands in front of those of the stretch behind it. -/
theorem Traces.after_emit (s : Signal) {f : Unit → Course α Response γ}
    (h : (f ()).Traces fun status passed t => T status passed (s :: t)) :
    (emit s >>= f).Traces T := by
  -- The signal alone is a stretch that never ends the course.
  have hemit : Traces (emit s : Course α Response Unit) fun _ passed t => passed = true ∧ t = [s] :=
    fun _ => ⟨rfl, rfl⟩
  refine hemit.bind (fun _ => h) (fun _ _ hshut => nomatch hshut.1) ?_
  intro status passed t u ht hu
  rw [(ht status).2]
  exact hu

/-- Showing a value to the validator is not a signal. -/
theorem Traces.after_validate (v : Validator) (name : String) (value : Json)
    {f : Except (List Violation) Unit → Course α Response γ}
    (h : ∀ verdict, (f verdict).Traces T) : (validate v name value >>= f).Traces T := by
  have hvalidate : Traces (validate v name value : Course α Response _)
      fun _ passed t => passed = true ∧ t = [] := fun _ => ⟨rfl, rfl⟩
  refine hvalidate.bind h (fun _ _ hshut => nomatch hshut.1) ?_
  intro status passed t u ht hu
  rw [(ht status).2]
  exact hu

/-- A value made of the result of a stretch is no signal either. -/
theorem Traces.map {c : Course α Response β} (g : β → γ) (h : c.Traces T) :
    (c >>= fun b => (Pure.pure (g b) : Course α Response γ)).Traces T := by
  have hpure : ∀ b, Traces (Pure.pure (g b) : Course α Response γ)
      fun _ passed t => passed = true ∧ t = [] := fun _ _ => ⟨rfl, rfl⟩
  refine h.bind hpure (fun _ _ ht => ht) ?_
  rintro status passed t u ht ⟨rfl, rfl⟩
  rw [List.append_nil]
  exact ht status

end Course

/-! ### The gates -/

namespace Service

variable {α β : Type} {s : Service} {id : RequestId} {spec : Spec} {input : InputType α}
  {r : Request}

theorem traces_reject {T : Nat → Bool → List Signal → Prop} {d : Definition}
    (h : ∀ status, T status false []) : (reject id d : Course α Response β).Traces T :=
  ⟨[], h _, rfl⟩

/-- The first gate tells which parameter is missing, or how many are bound. -/
theorem traces_bindParams :
    (bindParams id spec r : Course α Response Params).Traces fun _ => ParamsTrace := by
  unfold bindParams
  cases missingParam? spec r.params with
  | some name => exact .after_emit _ (traces_reject fun _ => .missing name)
  | none => exact .after_emit _ (Course.traces_pure fun _ => .bound _)

/-- The second gate tells the limit, the reason, or the number of bytes. -/
theorem traces_readBody :
    (s.readBody id r : Course α Response Bytes).Traces fun _ => BodyTrace := by
  unfold readBody
  split
  · exact .after_emit _ (Course.traces_pure fun _ => .read _)
  · exact .after_emit _ (traces_reject fun _ => .tooLarge _)
  · exact .after_emit _ (traces_reject fun _ => .unreadable _)

/-- The third and the fourth gate; an empty body passes both of them unread. -/
theorem traces_decodeBody (bytes : Bytes) :
    (s.decodeBody id spec input bytes).Traces fun _ => DecodeTrace := by
  unfold decodeBody
  split
  · exact .after_emit _ (Course.traces_pure fun _ => .skipped)
  · split
    · exact .after_emit _ (traces_reject fun _ => .failed _)
    · refine .after_emit _ (.after_validate _ _ _ fun verdict => ?_)
      cases verdict with
      | error violations => exact .after_emit _ (traces_reject fun _ => .invalid _)
      | ok _ => exact .after_emit _ (Course.traces_pure fun _ => .validated)

/-- An endpoint that takes no input has none of the three gates. -/
theorem traces_readInput :
    (s.readInput id spec input r).Traces fun _ => InputTrace spec.input.placeholder := by
  unfold readInput
  split
  · next h => exact Course.traces_pure fun _ => .ignored h
  · next h =>
    have hbody : spec.input.placeholder = false := (Bool.not_eq_true _).mp h
    refine traces_readBody.bind traces_decodeBody (fun _ t ht => .body hbody ht) ?_
    exact fun status passed t u ht hu => .decode hbody (ht status) hu

/-- The last gate tells who calls, and why the caller is denied. -/
theorem traces_checkAccess (caller : Identity) :
    (checkAccess id spec caller : Course α Response Unit).Traces AccessTrace := by
  unfold checkAccess
  refine .after_emit _ ?_
  cases authorize spec.access caller with
  | ok _ => exact Course.traces_pure fun _ => .admitted _
  | error denial =>
    have hstatus : (denialResponse id denial).status = denial.status :=
      Obstacle.status_denialResponse id denial
    refine ⟨[.accessDenied denial.status denial.message], ?_, rfl⟩
    rw [hstatus]
    exact .denied _ _

/-- **The signals of the gates.** -/
theorem traces_passGates :
    (s.passGates spec input r).Traces (GatesTrace spec.input.placeholder) := by
  -- Gate by gate from behind, as the grammar is built.
  have hadmission : ∀ params : Params,
      (s.readInput (s.requestId r) spec input r >>= fun x =>
        checkAccess (s.requestId r) spec (r.identity.getD .anonymous) >>= fun _ =>
          (pure (⟨s.requestId r, spec.name, params, r.identity.getD .anonymous,
            r.cancelled.getD false⟩, x) : Course α Response (Context × α))).Traces
        (AdmissionTrace spec.input.placeholder) := fun params =>
    traces_readInput.bind (fun x => (traces_checkAccess _).map _) (fun _ t ht => .input ht)
      fun status passed t u ht hu => .access (ht status) hu
  exact traces_bindParams.bind hadmission (fun _ t ht => .params ht)
    fun status passed t u ht hu => .admission (ht status) hu

/-! ### Behind the gates -/

variable {e : Endpoint α β}

/-- What the handler returns gives an answer, and signals that go with its status. -/
theorem exists_answerTrace_respond (s : Service) (e : Endpoint α β) (outcome : Except Chain β) :
    ∃ answer, (s.respond e outcome).outcome = .ok answer ∧
      AnswerTrace answer.response.status (Event.signals (s.respond e outcome).events) := by
  cases outcome with
  | error chain =>
    show ∃ answer, (classify e.spec chain : Course α Response Served).outcome = _ ∧ _
    -- An error is declared, known by its code only, or neither.
    simp only [respond, classify]
    cases chain.definition? with
    | none => exact ⟨_, rfl, .failed _⟩
    | some typed =>
      simp only
      split
      · exact ⟨_, rfl, .declared typed.code⟩
      · exact ⟨_, rfl, .undeclared typed.code⟩
  | ok y =>
    show ∃ answer, (s.encodeOutput e y).outcome = _ ∧ _
    simp only [respond, encodeOutput]
    cases hplace : e.spec.output.placeholder with
    | true => exact ⟨_, rfl, .succeeded⟩
    | false =>
      cases hencode : e.output.encode y with
      | error reason => exact ⟨_, rfl, .unencodable reason⟩
      | ok value =>
        -- The verdict of the validator matters only if outputs are checked.
        by_cases hcheck : s.policy.validateOutput = true
        · have hverdict : ∀ f : Except (List Violation) Unit → Course α Response Served,
              Course.validate s.validator e.spec.output.name value >>= f
                = Course.event (.shown e.spec.output.name value) >>= fun _ =>
                  f (s.validator e.spec.output.name value) := fun _ => rfl
          simp only [if_pos hcheck, hverdict]
          cases s.validator e.spec.output.name value with
          | error violations => exact ⟨_, rfl, .invalid violations.length⟩
          | ok _ => exact ⟨_, rfl, .succeeded⟩
        · simp only [if_neg hcheck]
          exact ⟨_, rfl, .succeeded⟩

/-- The handler itself is no signal: what it returned is told, and then the response. -/
theorem signals_callHandler {c : Context} {x : α} {answer : Served}
    (h : (s.respond e (e.handler c x)).outcome = .ok answer) :
    Event.signals (s.callHandler e c x).events
      = Event.signals (s.respond e (e.handler c x)).events
        ++ [.responseWritten answer.response.status] := by
  rw [callHandler_eq, Course.events_bind_ok _ rfl, Event.signals_append, Course.events_bind_ok _ h,
    Event.signals_append]
  rfl

theorem events_serve (s : Service) (e : Endpoint α β) (r : Request) :
    (s.serve e r).1 = (s.course e r).events := by
  simp only [serve]
  cases (s.course e r).outcome <;> rfl

/-- **The signals of a call** go with the status of its response. -/
theorem callTrace_serve (s : Service) (e : Endpoint α β) (r : Request) :
    CallTrace e.spec.input.placeholder (s.serve e r).2.response.status
      (Event.signals (s.serve e r).1) := by
  have hgates : (s.passGates e.spec e.input r).Traces (GatesTrace e.spec.input.placeholder) :=
    traces_passGates
  rw [events_serve]
  -- Behind a shut gate nothing follows, and behind the open ones the handler is called.
  cases houtcome : (s.passGates e.spec e.input r).outcome with
  | error response =>
    rw [Course.traces_of_error houtcome] at hgates
    obtain ⟨t, ht, hsignals⟩ := hgates
    have hevents : (s.course e r).events = (s.passGates e.spec e.input r).events :=
      Course.events_bind_error _ houtcome
    rw [(serve_of_stopped houtcome).2, hevents, hsignals]
    exact .rejected ht
  | ok passed =>
    obtain ⟨c, x⟩ := passed
    rw [Course.traces_of_ok houtcome] at hgates
    obtain ⟨answer, hanswer, hsignals⟩ := exists_answerTrace_respond s e (e.handler c x)
    have hevents : (s.course e r).events
        = (s.passGates e.spec e.input r).events ++ (s.callHandler e c x).events :=
      Course.events_bind_ok _ houtcome
    rw [(serve_of_passed houtcome hanswer).2, hevents, Event.signals_append,
      signals_callHandler hanswer, ← List.append_assoc]
    exact .answered (hgates _) hsignals

end Service

/-! ### The signal of the response -/

/-- Whether a signal is that of a response. -/
def Signal.isResponse : Signal → Bool
  | .responseWritten _ => true
  | _ => false

section Responses

variable {placeholder passed : Bool} {status : Nat} {t : List Signal}

/-- No gate tells of a response; the same holds for each part of the grammar that follows. -/
theorem ParamsTrace.any_isResponse (h : ParamsTrace passed t) :
    t.any Signal.isResponse = false := by
  cases h <;> rfl

theorem BodyTrace.any_isResponse (h : BodyTrace passed t) : t.any Signal.isResponse = false := by
  cases h <;> rfl

theorem DecodeTrace.any_isResponse (h : DecodeTrace passed t) :
    t.any Signal.isResponse = false := by
  cases h <;> rfl

theorem InputTrace.any_isResponse (h : InputTrace placeholder passed t) :
    t.any Signal.isResponse = false := by
  cases h with
  | ignored => rfl
  | body _ ht => exact ht.any_isResponse
  | decode _ ht hu => rw [List.any_append, ht.any_isResponse, hu.any_isResponse]; rfl

theorem AccessTrace.any_isResponse (h : AccessTrace status passed t) :
    t.any Signal.isResponse = false := by
  cases h <;> rfl

theorem AdmissionTrace.any_isResponse (h : AdmissionTrace placeholder status passed t) :
    t.any Signal.isResponse = false := by
  cases h with
  | input ht => exact ht.any_isResponse
  | access ht hu => rw [List.any_append, ht.any_isResponse, hu.any_isResponse]; rfl

theorem GatesTrace.any_isResponse (h : GatesTrace placeholder status passed t) :
    t.any Signal.isResponse = false := by
  cases h with
  | params ht => exact ht.any_isResponse
  | admission ht hu => rw [List.any_append, ht.any_isResponse, hu.any_isResponse]; rfl

theorem AnswerTrace.any_isResponse (h : AnswerTrace status t) :
    t.any Signal.isResponse = false := by
  cases h <;> rfl

/-- The signal of the response is the last one and the only one of its kind. -/
theorem CallTrace.exists_front (h : CallTrace placeholder status t) :
    ∃ front, t = front ++ [.responseWritten status] ∧ front.any Signal.isResponse = false := by
  cases h with
  | rejected ht => exact ⟨_, rfl, ht.any_isResponse⟩
  | answered ht hu =>
    exact ⟨_, rfl, by rw [List.any_append, ht.any_isResponse, hu.any_isResponse]; rfl⟩

end Responses

/-! ### Observers -/

namespace Observer

/-- What the observer at a place sees. -/
def seenAt (i : Nat) (seen : List (Nat × Notice)) : List Notice :=
  seen.filterMap fun (j, n) => if j = i then some n else none

theorem seenAt_append (i : Nat) (xs ys : List (Nat × Notice)) :
    seenAt i (xs ++ ys) = seenAt i xs ++ seenAt i ys := by
  unfold seenAt
  rw [List.filterMap_append]

/-- What the observer at a place is told. -/
def told (n : Notice) : Observer × Nat → Option (Nat × Notice)
  | (.recording, i) => some (i, n)
  | (.failing, _) => none

/-- Each observer is told at its own place. -/
theorem emit_eq (observers : List Observer) (n : Notice) :
    emit observers n = observers.zipIdx.filterMap (told n) := by
  unfold emit
  congr
  funext place
  obtain ⟨o, i⟩ := place
  cases o <;> rfl

/-- What observers at other places are told is not seen here. -/
theorem seenAt_of_elsewhere {places : List (Observer × Nat)} {i : Nat}
    (h : ∀ place ∈ places, place.2 ≠ i) (n : Notice) :
    seenAt i (places.filterMap (told n)) = [] := by
  unfold seenAt
  rw [List.filterMap_filterMap, List.filterMap_eq_nil_iff]
  rintro ⟨o, j⟩ hplace
  cases o with
  | recording => exact if_neg (h _ hplace)
  | failing => rfl

/-- An observer that does not fail sees every notice once, whatever the others do. -/
theorem seenAt_emit {observers : List Observer} {i : Nat} (h : observers[i]? = some .recording)
    (n : Notice) : seenAt i (emit observers n) = [n] := by
  obtain ⟨hi, hget⟩ := List.getElem?_eq_some_iff.mp h
  have hsplit : observers = observers.take i ++ .recording :: observers.drop (i + 1) := by
    rw [← hget, List.getElem_cons_drop, List.take_append_drop]
  have hlength : (observers.take i).length = i := List.length_take_of_le (Nat.le_of_lt hi)
  -- The observers before and behind this one have other places.
  have hbefore : seenAt i ((observers.take i).zipIdx.filterMap (told n)) = [] := by
    refine seenAt_of_elsewhere (fun place hplace => ?_) n
    have hlt := List.snd_lt_of_mem_zipIdx hplace
    omega
  have hbehind : seenAt i (((observers.drop (i + 1)).zipIdx (i + 1)).filterMap (told n)) = [] := by
    refine seenAt_of_elsewhere (fun place hplace => ?_) n
    have hle := List.le_snd_of_mem_zipIdx hplace
    omega
  have hhere : told n (.recording, i) = some (i, n) := rfl
  rw [emit_eq, hsplit, List.zipIdx_append, List.zipIdx_cons, hlength, Nat.zero_add,
    List.filterMap_append, List.filterMap_cons_some hhere, seenAt_append, hbefore]
  show seenAt i ([(i, n)] ++ _) = [n]
  rw [seenAt_append, hbehind, List.append_nil]
  simp [seenAt]

/-- Such an observer sees all signals of a call in their order. -/
theorem seenAt_emitAll {observers : List Observer} {i : Nat}
    (h : observers[i]? = some .recording) (endpoint : String) (signals : List Signal) :
    seenAt i (emitAll observers endpoint signals) = signals.map fun s => ⟨endpoint, s⟩ := by
  induction signals with
  | nil => rfl
  | cons s signals ih =>
    have hcons : emitAll observers endpoint (s :: signals)
        = emit observers ⟨endpoint, s⟩ ++ emitAll observers endpoint signals := rfl
    rw [hcons, seenAt_append, seenAt_emit h, ih]
    rfl

end Observer

end Callpoint
