import Callpoint.Proofs.Stream.Traces

/-!
# How failures are told

When a callback fails, its stream tells either the failure or that the client is lost.  A client is
taken for lost once a send was refused, and sends are refused not only to a client who has gone and
in a request that was cancelled, but also in a stream that was closed.

`Shared.Founded` says so of every moment: if the client is taken for lost, it has left, or a send
was refused, behind a cancellation or a close.  So to a client who is still there a failure is told
as what it is exactly if no send was refused, and a refusal takes a close before it
(`Service.failure_told_iff`).
-/

namespace Callpoint

namespace Usage

variable {u v : Usage}

/-- **A send was refused.** -/
def Refused (u : Usage) : Prop := ∃ o, (o, .error .disconnected) ∈ u.results

/-- A refusal stays in the results. -/
theorem Change.refused_of_refused (h : u.Change v) (hu : u.Refused) : v.Refused := by
  obtain ⟨o, ho⟩ := hu
  cases h with
  | refused | invalid | accepted => exact ⟨o, List.mem_append_left _ ho⟩
  | nothing | waits | givenUp | closed | cancelled | lost | taken | dropped => exact ⟨o, ho⟩

/-- A refusal is noted. -/
theorem Change.lost_of_refused (h : u.Change v) (hu : u.Refused → u.channel.lost = true)
    (hv : v.Refused) : v.channel.lost = true := by
  obtain ⟨o, ho⟩ := hv
  cases h with
  | refused p hc => rcases hc with rfl | rfl <;> rfl
  | invalid p hframe =>
    rcases List.mem_append.mp ho with ho | ho
    · exact hu ⟨o, ho⟩
    · obtain ⟨-, ⟨⟩⟩ := Prod.mk.inj (List.mem_singleton.mp ho)
      exact absurd hframe (Outgoing.frame_ne_disconnected _)
  | accepted p hframe hopen =>
    rcases List.mem_append.mp ho with ho | ho
    · exact hu ⟨o, ho⟩
    · cases (Prod.mk.inj (List.mem_singleton.mp ho)).2
  | lost => rfl
  | nothing | waits | givenUp | closed | cancelled | taken | dropped => exact hu ⟨o, ho⟩

/-- **Senders learn of a loss by a refusal.** -/
theorem lost_step {x : Use} (hx : x.isBySender = true) (h : (u.step x).channel.lost = true) :
    u.channel.lost = true ∨ u.channel.refuses = true ∧ (u.step x).Refused := by
  cases x with
  | send o =>
    cases hwaiting : u.waiting with
    | some w =>
      rw [step_send_of_waiting o hwaiting] at h
      exact Or.inl h
    | none =>
      rw [step_send o hwaiting] at h ⊢
      generalize hsending : u.channel.send o = sending at h ⊢
      have hsends := u.channel.sends_send o
      rw [hsending] at hsends
      cases hsends with
      | refused hrefuses =>
        exact Or.inr ⟨hrefuses, o, List.mem_append_right _ (List.mem_singleton_self _)⟩
      | invalid | queued | waiting => exact Or.inl h
  | resend =>
    cases hwaiting : u.waiting with
    | none =>
      rw [step_resend_of_settled hwaiting] at h
      exact Or.inl h
    | some w =>
      rw [step_resend hwaiting] at h ⊢
      generalize hsending : u.channel.resend w.2 w.1.isEvent = sending at h ⊢
      have hresends := u.channel.resends_resend w.2 w.1.isEvent
      rw [hsending] at hresends
      cases hresends with
      | refused hreceiver =>
        have hrefuses := u.channel.refuses_eq_true_iff.mpr (Or.inr (Or.inr (Or.inr hreceiver)))
        exact Or.inr ⟨hrefuses, w.1, List.mem_append_right _ (List.mem_singleton_self _)⟩
      | queued | waiting => exact Or.inl h
  | close =>
    cases hwaiting : u.waiting with
    | none =>
      rw [step_close hwaiting] at h
      exact Or.inl h
    | some w =>
      rw [step_close_of_waiting hwaiting] at h
      exact Or.inl h
  | giveUp => exact Or.inl h
  | cancel => exact Or.inl h
  | take => cases hx
  | dropReceiver => cases hx
  | noteLoss => cases hx

/-- **Why a client is taken for lost:** it has left, or a send was refused, in a request that was
cancelled or a stream that was closed.  Every refusal is noted. -/
structure Founded (u : Usage) (client : Client) : Prop where
  noted : u.Refused → u.channel.lost = true
  reason : u.channel.lost = true → client = .left ∨
    u.Refused ∧ (u.channel.cancelled = true ∨ u.channel.writing = false)

/-- A sender, whoever it is, takes a client for lost with reason, if none but those who have left
give up the other side. -/
theorem Founded.step {client : Client} (h : u.Founded client) (hheld : u.Held)
    (hleft : u.channel.receiver ≠ .taking → client = .left) {x : Use} (hx : x.isBySender = true) :
    (u.step x).Founded client := by
  have hchange := change_step hheld x
  have hcancelled := hchange.lost_cancelled.2
  have hclosed := fun hwriting => (hchange.of_closed hwriting).1
  refine ⟨hchange.lost_of_refused h.noted, fun hlost => ?_⟩
  -- The loss was known already, or there is a refusal now, with one of the reasons that there are.
  rcases lost_step hx hlost with hbefore | ⟨hrefuses, hrefused⟩
  · exact (h.reason hbefore).imp_right fun ⟨hrefused, hreason⟩ =>
      ⟨hchange.refused_of_refused hrefused, hreason.imp hcancelled hclosed⟩
  · rcases u.channel.refuses_eq_true_iff.mp hrefuses with hwriting | hbefore | hcancel | hgone
    · exact Or.inr ⟨hrefused, Or.inr (hclosed hwriting)⟩
    · exact (h.reason hbefore).imp_right fun ⟨_, hreason⟩ =>
        ⟨hrefused, hreason.imp hcancelled hclosed⟩
    · exact Or.inr ⟨hrefused, Or.inl (hcancelled hcancel)⟩
    · exact Or.inl (hleft hgone)

end Usage

namespace Live

theorem end?_eq_some_iff {s : Live} {outcome : StreamEnd} :
    s.end? = some outcome ↔ s.pause = .ended outcome := by
  unfold end?
  split
  · next other hpause => rw [hpause, Option.some.injEq, Pause.ended.injEq]
  · next hpause => exact iff_of_false (fun h => nomatch h) (hpause outcome)

end Live

namespace Shared

variable {s : Shared}

/-! ### The callback is a sender -/

theorem usage_perform (s : Shared) (next : Callback) :
    (s.perform next).usage = s.usage ∨
      ∃ x : Use, x.isBySender = true ∧ (s.perform next).usage = s.usage.step x := by
  cases next with
  | finish result =>
    simp only [perform]
    split
    · exact Or.inr ⟨.close, rfl, usage_use rfl s⟩
    · exact Or.inl rfl
  | send o next =>
    simp only [perform]
    split
    · exact Or.inl rfl
    · exact Or.inr ⟨.send o, rfl, usage_use rfl s⟩
  | close next =>
    simp only [perform]
    split
    · exact Or.inl rfl
    · exact Or.inr ⟨.close, rfl, usage_use rfl s⟩
  | cancel next => exact Or.inr ⟨.cancel, rfl, usage_use rfl s⟩
  | sleep | untilCancelled | inquire | note => exact Or.inl rfl

/-- What the callback does to the channel, any sender can do. -/
theorem usage_proceed (s : Shared) :
    s.proceed.usage = s.usage ∨
      ∃ x : Use, x.isBySender = true ∧ s.proceed.usage = s.usage.step x := by
  unfold proceed
  split
  · exact s.usage_perform _
  · exact Or.inr ⟨.resend, rfl, usage_use rfl s⟩
  · split <;> exact Or.inl rfl
  · split <;> exact Or.inl rfl
  · exact Or.inl rfl

/-! ### Lost clients -/

/-- Whenever the client of a stream is taken for lost, there is a reason. -/
def Founded (s : Shared) : Prop := s.usage.Founded s.live.client

theorem founded_start (size : Nat) (keepAlive : Option Nat) (cancelled : Bool)
    (callback : Callback) : Founded { live := .start size keepAlive cancelled callback } :=
  ⟨fun ⟨_, h⟩ => absurd h List.not_mem_nil, fun h => nomatch h⟩

/-- Where the receiver takes no frames any more, the client has left. -/
theorem Orderly.left_of_receiver (h : s.Orderly) (hreceiver : s.live.channel.receiver ≠ .taking) :
    s.live.client = .left := by
  have hsees := h.sees
  cases hclient : s.live.client with
  | reading =>
    rw [hclient] at hsees
    exact absurd hsees hreceiver
  | sawEnd =>
    rw [hclient] at hsees
    exact absurd hsees.1 hreceiver
  | left => rfl

theorem Founded.step (h : s.Founded) (ho : s.Orderly) (a : Act) : (s.step a).Founded := by
  have hsender : ∀ x : Use, x.isBySender = true → (s.usage.step x).Founded s.live.client :=
    fun x hx => Usage.Founded.step h ho.balanced.held ho.left_of_receiver hx
  cases a with
  | poll =>
    have hlost := congrArg Channel.lost s.live.channel_poll
    have hcancelled := congrArg Channel.cancelled s.live.channel_poll
    have hwriting := congrArg Channel.writing s.live.channel_poll
    refine ⟨fun hrefused => hlost.trans (h.noted hrefused), fun hafter => ?_⟩
    rcases h.reason (hlost.symm.trans hafter) with hleft | ⟨hrefused, hreason⟩
    · exact Or.inl (client_step_of_left hleft .poll)
    · exact Or.inr ⟨hrefused, hreason.imp hcancelled.trans hwriting.trans⟩
  | leave =>
    -- To leave is the one way to be lost without a refusal.
    by_cases hclient : s.live.client = .reading
    · have hleft := client_leave hclient
      have hsees := (ho.step .leave).sees
      rw [hleft] at hsees
      exact ⟨fun _ => hsees.1, fun _ => Or.inl hleft⟩
    · rw [step_leave_of_not_reading hclient]
      exact h
  | elapse duration => exact h
  | proceed =>
    show s.proceed.usage.Founded s.proceed.live.client
    rw [s.client_proceed]
    rcases s.usage_proceed with hsame | ⟨x, hx, husage⟩
    · exact hsame ▸ h
    · exact husage ▸ hsender x hx
  | other x =>
    simp only [Shared.step]
    split
    · next hfree =>
      have hx := isBySender_of_isFree hfree
      show (s.use x).usage.Founded s.live.client
      exact usage_use hx s ▸ hsender x hx
    · exact h

theorem Founded.run (h : s.Founded) (ho : s.Orderly) (acts : List Act) : (s.run acts).Founded :=
  (List.foldlRecOn acts Shared.step (motive := fun t => t.Orderly ∧ t.Founded) ⟨ho, h⟩
    fun _ ht a _ => ⟨ht.1.step a, ht.2.step ht.1 a⟩).2

/-! ### Failures -/

/-- What tells the end, and from what. -/
theorem end_of_step {a : Act} {outcome : StreamEnd} {result : Except Chain Unit}
    (hpause : s.live.pause = .start (.finish result))
    (hend : (s.step a).live.end? = some outcome) :
    outcome = .ofResult s.live.channel result ∧
      (s.step a).live.signals = [outcome.signal s.live.channel.sent] := by
  have hended := Live.end?_eq_some_iff.mp hend
  by_cases ha : a = .proceed
  · subst ha
    have hperform : s.step .proceed = s.perform (.finish result) := proceed_of_start hpause
    rw [Live.signals_of_ended hended, hperform]
    rw [hperform] at hended
    -- The step either closes the stream, and then there is no end yet, or tells it.
    simp only [perform] at hended ⊢
    split at hended
    · exact absurd (hpause.symm.trans hended) Pause.noConfusion
    · next hwriting =>
      rw [if_neg hwriting]
      exact ⟨(Pause.ended.inj hended).symm, rfl⟩
  · rw [pause_step_of_ne ha, hpause] at hended
    cases hended

/-- A stream ends when its callback has returned. -/
theorem returned_of_end {a : Act} {outcome : StreamEnd} (hbefore : s.live.end? = none)
    (hend : (s.step a).live.end? = some outcome) :
    ∃ result, s.live.pause = .start (.finish result) := by
  have hended := Live.end?_eq_some_iff.mp hend
  have hnot : ∀ other, s.live.pause ≠ .ended other := fun other hpause =>
    nomatch hbefore.symm.trans (Live.end?_eq_some_iff.mpr hpause)
  by_cases ha : a = .proceed
  · subst ha
    exact (pause_of_proceed_ended hended).resolve_left (hnot outcome)
  · rw [pause_step_of_ne ha] at hended
    exact absurd hended (hnot outcome)

end Shared

/-- To a client who is not known to be gone, a failure that does not speak of a lost client is one
unless a send was refused. -/
theorem StreamEnd.ofResult_error {c : Channel} {error : Chain} (hchain : error.isDisconnect = false)
    (hcancelled : c.cancelled = false) :
    StreamEnd.ofResult c (.error error) = if c.lost then .disconnected else .failed error := by
  simp [ofResult, Channel.isDisconnected, hchain, hcancelled]

/-- An endpoint that takes no input, with the callback that writes its stream. -/
def StreamEndpoint.writing (callback : Callback) : StreamEndpoint Unit :=
  .bind (.build "probe" "GET" "/probe" []) ⟨.noBody, fun _ => .ok (), ()⟩ .noBody
    fun _ _ => callback

namespace Service

variable {α : Type} {s : Service} {p : StreamPolicy} {e : StreamEndpoint α} {r : Request}
  {c : Committed}

/-- **How the failure of a stream is told.** A stream ends when its callback has returned.  If it
returned an error that does not speak of a lost client, while the client is there and the request is
not cancelled, the end is told as that failure exactly if no send was refused before; else it is
told that the client is lost.  For a send to be refused the stream must have been closed before.
The end comes within two steps, unless the send of another writer waits. -/
theorem failure_told_iff (h : (s.openStream p e r).outcome = .ok c) (acts : List Act) :
    let t := Shared.run { live := c.live } acts
    (∀ a outcome, t.live.end? = none → (t.step a).live.end? = some outcome →
      ∃ result, t.live.pause = .start (.finish result))
    ∧ ∀ error, t.live.pause = .start (.finish (.error error)) → error.isDisconnect = false →
      t.live.client ≠ .left → t.live.channel.cancelled = false →
        (∀ a outcome, (t.step a).live.end? = some outcome →
          ((outcome = .failed error ∧ (t.step a).live.signals = [.streamFailed error.text]) ↔
            ¬ t.usage.Refused)
          ∧ (outcome = .disconnected ↔ t.usage.Refused))
        ∧ (t.usage.Refused → t.live.channel.writing = false)
        ∧ (t.waiting = none → ∃ n ≤ 2, ∃ outcome,
          (t.run (List.replicate n .proceed)).live.end? = some outcome
            ∧ (outcome = .failed error ↔ ¬ t.usage.Refused)) := by
  intro t
  obtain ⟨cancelled, callback, hlive⟩ := exists_live_of_openStream h
  have hfounded : t.Founded := by
    refine Shared.Founded.run ?_ (orderly_of_openStream h) acts
    rw [hlive]
    exact Shared.founded_start _ _ _ _
  refine ⟨fun a outcome => Shared.returned_of_end, fun error hpause hchain hclient hcancelled => ?_⟩
  have hrefused :
      t.live.channel.lost = true → t.usage.Refused ∧ t.live.channel.writing = false := by
    intro hlost
    obtain ⟨hrefused, hreason⟩ := (hfounded.reason hlost).resolve_left hclient
    exact ⟨hrefused, hreason.resolve_left fun hcancel => nomatch hcancelled.symm.trans hcancel⟩
  have hlost : t.live.channel.lost = true ↔ t.usage.Refused :=
    ⟨fun hlost => (hrefused hlost).1, hfounded.noted⟩
  refine ⟨fun a outcome hend => ?_, fun hany => (hrefused (hlost.mpr hany)).2, fun hwaiting => ?_⟩
  · obtain ⟨houtcome, hsignals⟩ := Shared.end_of_step hpause hend
    rw [StreamEnd.ofResult_error hchain hcancelled] at houtcome
    rw [hsignals, ← hlost, houtcome]
    cases t.live.channel.lost <;> simp [StreamEnd.signal]
  · obtain ⟨n, hn, hrun⟩ := Shared.run_finish hpause hwaiting
    refine ⟨n, hn, _, by rw [hrun]; rfl, ?_⟩
    rw [StreamEnd.ofResult_error hchain (c := t.live.channel.close) hcancelled, ← hlost]
    show (if t.live.channel.lost then _ else _) = _ ↔ _
    cases t.live.channel.lost <;> simp

/-- A callback that sends one event, closes its stream and fails. -/
theorem failure_told_behind_close :
    ∃ c, (({} : Service).openStream {} (.writing (.send (.event { data := "one" }) fun _ =>
          .close (.finish (.error [.text "boom"])))) .probe).outcome = .ok c ∧
      let t := Shared.run { live := c.live } [.proceed, .poll, .proceed]
      ∃ n ≤ 2, (t.run (List.replicate n .proceed)).live.end? = some (.failed [.text "boom"]) := by
  refine ⟨_, rfl, ?_⟩
  obtain ⟨-, hfails⟩ := failure_told_iff (s := {}) (p := {})
    (e := .writing (.send (.event { data := "one" }) fun _ =>
      .close (.finish (.error [.text "boom"]))))
    (r := .probe) rfl [.proceed, .poll, .proceed]
  obtain ⟨-, -, hends⟩ := hfails _ rfl rfl Client.noConfusion rfl
  obtain ⟨n, hn, outcome, hend, houtcome⟩ := hends rfl
  obtain rfl := houtcome.mpr fun ⟨_, h⟩ => nomatch List.mem_singleton.mp h
  exact ⟨n, hn, hend⟩

/-- A callback that closes its stream, sends a comment all the same, and fails.  The client still
reads, and nobody cancelled the request. -/
theorem failure_told_as_lost_client :
    ∃ c, (({} : Service).openStream {} (.writing (.close (.send (.comment "late") fun _ =>
          .finish (.error [.text "boom"])))) .probe).outcome = .ok c ∧
      let t := Shared.run { live := c.live } [.proceed, .proceed]
      t.live.pause = .start (.finish (.error [.text "boom"])) ∧
      Chain.isDisconnect [.text "boom"] = false ∧
      t.live.client = .reading ∧ t.live.channel.cancelled = false ∧
      (t.step .proceed).live.end? = some .disconnected ∧
      (t.step .proceed).live.signals = [.streamDisconnected 0] :=
  ⟨_, rfl, rfl, rfl, rfl, rfl, rfl, rfl⟩

end Service

end Callpoint
