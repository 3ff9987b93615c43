import Callpoint.Proofs.Exchange.Reach
import Callpoint.Proofs.Stream.OneWriter
import Callpoint.Stream.Endpoint

/-!
# What a client of a stream receives

Every step of a stream keeps it in order (`Shared.Orderly.step`): the accounts of its channel
balance, the client received what they say was taken, and where the client and the callback stand
agrees with the channel.  What a client can rely on follows from that order (`stream_delivers`).
-/

namespace Callpoint

/-! ### Order -/

/-- How the channel is when the client stands like this to its body. -/
def Client.Sees (c : Channel) : Client → Prop
  | .reading => c.receiver = .taking
  | .sawEnd => c.receiver = .taking ∧ c.writing = false ∧ c.queue = []
  | .left => c.lost = true ∧ c.cancelled = true

/-- How the channel is when the callback stands here. -/
def Pause.Suits (u : Usage) : Pause → Prop
  | .forRoom frame isEvent _ => ∃ o, u.waiting = some (o, frame) ∧ o.isEvent = isEvent
  | .ended outcome =>
    u.channel.writing = false ∧ ∀ events, outcome = .completed events → events = u.channel.sent
  | _ => True

/-- Where the callback stands depends on the waiting send, the flag and the counter only. -/
theorem Pause.Suits.congr {p : Pause} {u v : Usage} (h : p.Suits u)
    (hwaiting : v.waiting = u.waiting) (hwriting : v.channel.writing = u.channel.writing)
    (hsent : v.channel.sent = u.channel.sent) : p.Suits v := by
  cases p with
  | forRoom frame isEvent next =>
    obtain ⟨o, ho, hevent⟩ := h
    exact ⟨o, hwaiting.trans ho, hevent⟩
  | ended outcome =>
    exact ⟨hwriting.trans h.1, fun events houtcome => (h.2 events houtcome).trans hsent.symm⟩
  | start next => trivial
  | untilTime time next => trivial
  | untilCancelled next => trivial

namespace Shared

/-- **A stream is in order.** -/
structure Orderly (s : Shared) : Prop where
  balanced : s.usage.Balanced
  received : s.live.received = s.deliveries.map Delivery.text
  sees : s.live.client.Sees s.live.channel
  suits : s.live.pause.Suits s.usage

variable {s : Shared}

/-- A stream that was just opened is in order: nothing was sent, and the client reads. -/
theorem orderly_start (size : Nat) (keepAlive : Option Nat) (cancelled : Bool)
    (callback : Callback) :
    Orderly { live := .start size keepAlive cancelled callback } where
  balanced := ⟨fun _ _ h => (nomatch h), rfl, rfl, fun _ => rfl, fun _ => rfl⟩
  received := rfl
  sees := rfl
  suits := trivial

/-! ### Senders -/

/-- What a sender does in a stream is what it does to the channel. -/
theorem usage_use {x : Use} (hx : x.isBySender = true) (s : Shared) :
    (s.use x).usage = s.usage.step x := by
  obtain ⟨htaken, hdiscarded, -⟩ := Usage.step_keeps_of_isBySender hx s.usage
  show Usage.mk _ _ _ s.usage.taken s.usage.discarded = s.usage.step x
  rw [← htaken, ← hdiscarded]
  rfl

/-- What the client sees is not disturbed by what senders do. -/
theorem sees_of_change {client : Client} {u v : Usage} (h : client.Sees u.channel)
    (hchange : u.Change v) (hreceiver : v.channel.receiver = u.channel.receiver) :
    client.Sees v.channel := by
  cases client with
  | reading => exact hreceiver.trans h
  | sawEnd =>
    obtain ⟨htaking, hwriting, hqueue⟩ := h
    -- The client saw the end of a closed channel, and that takes in nothing more.
    obtain ⟨hclosed, -, -, hempty⟩ := hchange.of_closed hwriting
    exact ⟨hreceiver.trans htaking, hclosed, hempty hqueue⟩
  | left => exact ⟨hchange.lost_cancelled.1 h.1, hchange.lost_cancelled.2 h.2⟩

/-- What a sender does keeps order, wherever the callback comes to stand if that suits. -/
theorem Orderly.use (h : s.Orderly) {x : Use} (hx : x.isBySender = true) {p : Pause}
    (hp : p.Suits (s.usage.step x)) : ((s.use x).withPause p).Orderly := by
  have husage : ((s.use x).withPause p).usage = s.usage.step x := usage_use hx s
  have hchange : s.usage.Change (s.usage.step x) := Usage.change_step h.balanced.held x
  refine ⟨husage ▸ hchange.balanced h.balanced, h.received, ?_, husage ▸ hp⟩
  exact sees_of_change h.sees hchange (Usage.step_keeps_of_isBySender hx s.usage).2.2

theorem Orderly.withPause (h : s.Orderly) {p : Pause} (hp : p.Suits s.usage) :
    (s.withPause p).Orderly := ⟨h.balanced, h.received, h.sees, hp⟩

/-- Another task does not disturb the callback where it stands. -/
theorem suits_of_isFree (h : s.Orderly) {x : Use} (hx : s.isFree x = true) :
    s.live.pause.Suits (s.usage.step x) := by
  have hsuits := h.suits
  cases hpause : s.live.pause with
  | start next => trivial
  | untilTime time next => trivial
  | untilCancelled next => trivial
  | ended outcome =>
    rw [hpause] at hsuits
    obtain ⟨hwriting, hevents⟩ := hsuits
    -- The channel is closed already, so the counter stays what the outcome says.
    obtain ⟨hclosed, -, hsent, -⟩ := (Usage.change_step h.balanced.held x).of_closed hwriting
    exact ⟨hclosed, fun events houtcome => (hevents events houtcome).trans hsent.symm⟩
  | forRoom frame isEvent next =>
    rw [hpause] at hsuits
    obtain ⟨o, hwaiting, hevent⟩ := hsuits
    -- The callback's own send waits, so no other writer can settle it, and none may close.
    refine ⟨o, ?_, hevent⟩
    cases x with
    | send p => rw [Usage.step_send_of_waiting p hwaiting]; exact hwaiting
    | close => rw [Usage.step_close_of_waiting hwaiting]; exact hwaiting
    | cancel => exact hwaiting
    | resend => simp [isFree, hpause, Pause.isForRoom] at hx
    | giveUp => simp [isFree, hpause, Pause.isForRoom] at hx
    | take => cases hx
    | dropReceiver => cases hx
    | noteLoss => cases hx

/-- What other tasks may do is what senders do: none of them reads. -/
theorem isBySender_of_isFree {x : Use} (hx : s.isFree x = true) : x.isBySender = true := by
  cases x with
  | send | close | cancel | resend | giveUp => rfl
  | take | dropReceiver | noteLoss => exact hx

/-! ### The callback -/

/-- A callback whose send waits stands there with just this send. -/
theorem suits_ofSending (u : Usage) (o : Outgoing) (next : Except StreamError Unit → Callback)
    (sending : Channel.Sending × Channel) :
    (Pause.ofSending o.isEvent next sending.1).Suits (u.settle o sending) := by
  obtain ⟨sending, c⟩ := sending
  cases sending with
  | settled r => trivial
  | waiting frame => exact ⟨o, rfl, rfl⟩

/-- The number of events is read when the writing has ended, hence it is the final one. -/
theorem suits_ended {c : Channel} (hwriting : c.writing = false) (r : Except Chain Unit) {u : Usage}
    (hu : u.channel = c) : (Pause.ended (.ofResult c r)).Suits u := by
  subst hu
  refine ⟨hwriting, fun events h => ?_⟩
  cases r with
  | ok => exact (StreamEnd.completed.inj h).symm
  | error e =>
    simp only [StreamEnd.ofResult] at h
    split at h <;> cases h

/-- One step of the callback keeps order; the cases are what a callback can do next. -/
theorem Orderly.perform (h : s.Orderly) {next : Callback} (hpause : s.live.pause = .start next) :
    (s.perform next).Orderly := by
  cases next with
  | finish result =>
    simp only [Shared.perform]
    split
    -- The writing is closed first, and the next step reads the counter.
    · exact h.use rfl (p := s.live.pause) (by rw [hpause]; trivial)
    · next hwriting => exact h.withPause (suits_ended ((Bool.not_eq_true _).mp hwriting) _ rfl)
  | send o next =>
    simp only [Shared.perform]
    split
    · exact h
    · next hfree =>
      have hwaiting : s.usage.waiting = none := Option.not_isSome_iff_eq_none.mp hfree
      refine h.use rfl ?_
      rw [Usage.step_send o hwaiting]
      exact suits_ofSending s.usage o next (s.live.channel.send o)
  | close next =>
    simp only [Shared.perform]
    split
    · exact h
    · exact h.use rfl trivial
  | cancel next => exact h.use rfl trivial
  | sleep duration next => exact h.withPause trivial
  | untilCancelled next => exact h.withPause trivial
  | inquire next => exact h.withPause trivial
  | note entry next => exact ⟨h.balanced, h.received, h.sees, trivial⟩

/-- Order is kept whether the callback moves or goes on waiting. -/
theorem Orderly.proceed (h : s.Orderly) : s.proceed.Orderly := by
  have hsuits := h.suits
  unfold Shared.proceed
  cases hpause : s.live.pause with
  | start next => exact h.perform hpause
  | forRoom frame isEvent next =>
    rw [hpause] at hsuits
    obtain ⟨o, hwaiting, rfl⟩ := hsuits
    refine h.use rfl ?_
    rw [Usage.step_resend hwaiting]
    exact suits_ofSending s.usage o next (s.live.channel.resend frame o.isEvent)
  | untilTime time next =>
    simp only
    split
    · exact h.withPause trivial
    · exact h
  | untilCancelled next =>
    simp only
    split
    · exact h.withPause trivial
    · exact h
  | ended outcome => exact h

/-! ### The client -/

theorem frames_append (deliveries : List Delivery) (d : Delivery) :
    (deliveries ++ [d]).filterMap Delivery.frame?
      = deliveries.filterMap Delivery.frame? ++ d.frame?.toList := by
  rw [List.filterMap_append]
  cases d <;> rfl

/-- A poll takes the oldest frame, or adds nothing to the accounts. -/
theorem Orderly.poll (h : s.Orderly) : (s.step .poll).Orderly := by
  have hpolls := s.live.polls_poll
  unfold step
  generalize s.live.poll = after at hpolls ⊢
  generalize s.live.delivery? = delivery at hpolls ⊢
  obtain ⟨hbalanced, hreceived, hsees, hsuits⟩ := h
  cases hpolls with
  | nothing =>
    simp only [Option.toList_none, List.append_nil]
    exact ⟨hbalanced, hreceived, hsees, hsuits⟩
  | @frame frame rest hreading hreceiver hqueue =>
    -- For the accounts this is a reader who takes a frame.
    have hchange := Usage.Change.taken (u := s.usage) hreceiver hqueue
    rw [hreading] at hsees
    refine ⟨?_, ?_, ?_, ?_⟩
    · unfold usage
      simp only [Option.toList_some]
      rw [frames_append]
      exact hchange.balanced hbalanced
    · show s.live.received ++ [frame] = (s.deliveries ++ [Delivery.queued frame]).map Delivery.text
      rw [hreceived, List.map_append]
      rfl
    · show s.live.client.Sees _
      rw [hreading]
      exact hsees
    · exact hsuits.congr rfl rfl rfl
  | keepAlive hreading =>
    refine ⟨?_, ?_, hsees, hsuits⟩
    · unfold usage
      simp only [Option.toList_some]
      rw [frames_append, Delivery.frame?, Option.toList_none, List.append_nil]
      exact hbalanced
    · show s.live.received ++ [keepAliveFrame]
        = (s.deliveries ++ [Delivery.keepAlive]).map Delivery.text
      rw [hreceived, List.map_append]
      rfl
  | ended hreading hqueue hclosed =>
    simp only [Option.toList_none, List.append_nil]
    refine ⟨hbalanced, hreceived, ?_, hsuits⟩
    rw [hreading] at hsees
    -- The queue ended while the client was reading, which only a closed writer explains.
    have hwriting : s.live.channel.writing = false :=
      (Bool.not_eq_true _).mp fun hopen => hclosed ⟨hopen, hsees⟩
    exact ⟨hsees, hwriting, hqueue⟩

/-- A client who leaves drops the queue, notes the loss and cancels, and order survives all three.
-/
theorem Orderly.leave (h : s.Orderly) : (s.step .leave).Orderly := by
  obtain ⟨hbalanced, hreceived, hsees, hsuits⟩ := h
  unfold step Live.leave
  by_cases hclient : s.live.client = .reading
  · simp only [hclient, ne_eq, not_true_eq_false, if_false, if_true]
    -- To leave is to use the channel three times.
    have hdropped := Usage.Change.dropped (u := s.usage)
    have hlost := Usage.Change.lost (u := s.usage.step .dropReceiver)
    have hcancelled := Usage.Change.cancelled (u := (s.usage.step .dropReceiver).step .noteLoss)
    refine ⟨?_, hreceived, ⟨rfl, rfl⟩, hsuits.congr rfl rfl rfl⟩
    exact hcancelled.balanced (hlost.balanced (hdropped.balanced hbalanced))
  · simp only [if_pos hclient, if_neg hclient, List.append_nil]
    exact ⟨hbalanced, hreceived, hsees, hsuits⟩

/-- **Every step keeps a stream in order.** -/
theorem Orderly.step (h : s.Orderly) (a : Act) : (s.step a).Orderly := by
  cases a with
  | poll => exact h.poll
  | leave => exact h.leave
  | elapse duration => exact ⟨h.balanced, h.received, h.sees, h.suits⟩
  | proceed => exact h.proceed
  | other x =>
    simp only [Shared.step]
    split
    · next hfree => exact h.use (isBySender_of_isFree hfree) (suits_of_isFree h hfree)
    · exact h

/-- Induction on the acts, with `Orderly.step` as the step. -/
theorem Orderly.run (h : s.Orderly) (acts : List Act) : (s.run acts).Orderly :=
  List.foldlRecOn acts Shared.step (motive := Orderly) h fun _ ht a _ => ht.step a

/-! ### What the client has -/

/-- The client has received the first ones of all frames that were queued. -/
theorem Orderly.frames_isPrefix (h : s.Orderly) :
    s.frames.map .ok <+: s.accepted.map Outgoing.frame := by
  have hframes : s.accepted.map Outgoing.frame = s.usage.queued.map .ok := h.balanced.frames
  rw [hframes, Usage.queued, List.append_assoc, List.map_append]
  exact List.prefix_append _ _

/-- A client who saw the end has received them all. -/
theorem Orderly.frames_of_sawEnd (h : s.Orderly) (hclient : s.live.client = .sawEnd) :
    s.frames.map .ok = s.accepted.map Outgoing.frame := by
  have hframes : s.accepted.map Outgoing.frame = s.usage.queued.map .ok := h.balanced.frames
  have hsees := h.sees
  rw [hclient] at hsees
  obtain ⟨htaking, -, hqueue⟩ := hsees
  -- Nothing is left in the queue and nothing was left behind: all that was queued was taken.
  have hdiscarded : s.usage.discarded = [] :=
    h.balanced.discarded (htaking.symm ▸ Receiver.noConfusion)
  have hqueue : s.usage.channel.queue = [] := hqueue
  rw [hframes, Usage.queued, hdiscarded, hqueue, List.append_nil, List.append_nil]
  rfl

/-- Nobody leaves twice, and nobody leaves after the end. -/
theorem step_leave_of_not_reading (h : s.live.client ≠ .reading) : s.step .leave = s := by
  simp only [step, Live.leave, if_pos h, if_neg h, List.append_nil]

theorem client_perform (s : Shared) (next : Callback) :
    (s.perform next).live.client = s.live.client := by
  unfold perform
  split <;> (try split) <;> rfl

theorem client_proceed (s : Shared) : s.proceed.live.client = s.live.client := by
  unfold proceed
  split
  · exact s.client_perform _
  · rfl
  · split <;> rfl
  · split <;> rfl
  · rfl

/-- A client who has left does not come back. -/
theorem client_step_of_left (h : s.live.client = .left) (a : Act) :
    (s.step a).live.client = .left := by
  have hreading : s.live.client ≠ .reading := h ▸ Client.noConfusion
  cases a with
  | poll =>
    show s.live.poll.client = .left
    rw [Live.poll, if_pos hreading, h]
  | leave => rw [step_leave_of_not_reading hreading, h]
  | elapse duration => exact h
  | proceed => exact s.client_proceed.trans h
  | other x =>
    simp only [step]
    split <;> exact h

theorem client_run_of_left (h : s.live.client = .left) (acts : List Act) :
    (s.run acts).live.client = .left :=
  List.foldlRecOn acts step (motive := fun t => t.live.client = .left) h
    fun _ ht a _ => client_step_of_left ht a

theorem client_leave (h : s.live.client = .reading) : (s.step .leave).live.client = .left := by
  show s.live.leave.client = .left
  rw [Live.leave, if_neg (not_not_intro h)]

/-! ### How the stream ends -/

/-- The callback has returned without an error. -/
def Returned (s : Shared) : Prop :=
  s.live.pause = .start (.finish (.ok ())) ∨ ∃ events, s.live.pause = .ended (.completed events)

/-- Only `proceed` moves the callback. -/
theorem pause_step_of_ne {a : Act} (ha : a ≠ .proceed) (s : Shared) :
    (s.step a).live.pause = s.live.pause := by
  cases a with
  | poll => exact s.live.pause_poll
  | leave => exact s.live.pause_leave
  | elapse duration => rfl
  | proceed => exact absurd rfl ha
  | other x =>
    simp only [step]
    split <;> rfl

/-- A callback that returned without an error stays so and can only come to its end. -/
theorem Returned.step (h : s.Returned) (a : Act) : (s.step a).Returned := by
  -- Nobody but the callback moves it on.
  by_cases ha : a = .proceed
  · subst ha
    show s.proceed.Returned
    unfold proceed
    -- The end comes in one step or in two, depending on whether the writing was closed.
    rcases h with hpause | ⟨events, hpause⟩
    · simp only [hpause, perform]
      split
      · exact Or.inl hpause
      · exact Or.inr ⟨_, rfl⟩
    · simp only [hpause]
      exact Or.inr ⟨events, hpause⟩
  · unfold Returned
    rw [pause_step_of_ne ha]
    exact h

theorem Returned.run (h : s.Returned) (acts : List Act) : (s.run acts).Returned :=
  List.foldlRecOn acts Shared.step (motive := Returned) h fun _ ht a _ => ht.step a

/-- A stream whose callback has returned without an error ends with the number of its events. -/
theorem Orderly.end_of_returned (h : s.Orderly) (hreturned : s.Returned) {outcome : StreamEnd}
    (houtcome : s.live.end? = some outcome) :
    outcome = .completed (s.accepted.countP Outgoing.isEvent) := by
  unfold Live.end? at houtcome
  rcases hreturned with hpause | ⟨events, hpause⟩
  · rw [hpause] at houtcome
    cases houtcome
  · have hsuits := h.suits
    rw [hpause] at houtcome hsuits
    obtain rfl := Option.some.inj houtcome
    have hsent : s.live.channel.sent = s.accepted.countP Outgoing.isEvent := h.balanced.events
    -- The number in the outcome is the counter, and by the accounts this counts the accepted
    -- events.
    rw [hsuits.2 events rfl]
    exact congrArg _ hsent

/-- Once the stream is closed, a client who goes on polling comes to the end. -/
theorem Orderly.client_run_poll (h : s.Orderly) (hwriting : s.live.channel.writing = false)
    (hclient : s.live.client = .reading) :
    (s.run (List.replicate (s.live.channel.queue.length + 1) .poll)).live.client = .sawEnd := by
  have hreceiver : s.live.channel.receiver = .taking := by
    have hsees := h.sees
    rw [hclient] at hsees
    exact hsees
  have hhere : s.live.channel.receiver ≠ .gone := hreceiver.symm ▸ Receiver.noConfusion
  -- Each poll takes one frame; the last one finds an empty queue that nobody can add to.
  induction hqueue : s.live.channel.queue generalizing s with
  | nil =>
    show s.live.poll.client = .sawEnd
    simp only [Live.poll, Channel.take, hclient, hreceiver, hqueue, hwriting, ne_eq, not_true,
      if_false, reduceCtorEq, Bool.false_eq_true, false_and]
  | cons frame rest ih =>
    have hpoll : (s.step .poll).live =
        { s.live.receive frame with channel := { s.live.channel with queue := rest } } := by
      show s.live.poll = _
      simp only [Live.poll, Channel.take, if_neg hhere, hqueue, if_neg (not_not_intro hclient)]
    have hrest : (s.step .poll).live.channel.queue = rest := by rw [hpoll]
    exact ih (h.step .poll) (by rw [hpoll]; exact hwriting) (by rw [hpoll]; exact hclient)
      (by rw [hpoll]; exact hreceiver) (by rw [hpoll]; exact hhere) hrest

end Shared

namespace Service

variable {α : Type} {s : Service} {p : StreamPolicy} {e : StreamEndpoint α} {r : Request}
  {c : Committed}

/-! ### Opening a stream -/

/-- A gate that stops the request answers it, and no stream is opened. -/
theorem openStream_of_stopped {response : Response}
    (h : (s.passGates e.spec e.input r).outcome = .error response) :
    (s.openStream p e r).outcome = .error response ∧
      (s.openStream p e r).events = (s.passGates e.spec e.input r).events :=
  ⟨Course.outcome_bind_error _ h, Course.events_bind_error _ h⟩

/-- Behind the gates nothing can fail any more. -/
theorem openStream_of_passed {context : Context} {x : α}
    (h : (s.passGates e.spec e.input r).outcome = .ok (context, x)) :
    (s.openStream p e r).outcome = .ok ⟨committedStatus, s.committedHeaders context.requestId,
        .start p.bufferSize p.keepAlive context.cancelled (e.callback context x)⟩ ∧
      (s.openStream p e r).events = (s.passGates e.spec e.input r).events ++
        [.signal .streamOpened, .signal (.responseWritten committedStatus), .called context x] := by
  unfold openStream
  rw [Course.outcome_bind_ok _ h, Course.events_bind_ok _ h]
  exact ⟨rfl, rfl⟩

theorem stopped_of_openStream {response : Response}
    (h : (s.openStream p e r).outcome = .error response) :
    (s.passGates e.spec e.input r).outcome = .error response := by
  cases hgates : (s.passGates e.spec e.input r).outcome with
  | error other =>
    rw [(openStream_of_stopped hgates).1] at h
    exact congrArg Except.error (Except.error.inj h)
  | ok passed =>
    rw [(openStream_of_passed hgates).1] at h
    cases h

/-- A request that reached the callback had passed the gates. -/
theorem outcome_passGates_of_mem_calls_openStream {context : Context} {x : α}
    (h : (context, x) ∈ Event.calls (s.openStream p e r).events) :
    (s.passGates e.spec e.input r).outcome = .ok (context, x) := by
  have hquiet : Event.calls (s.passGates e.spec e.input r).events = [] := quiet_passGates
  cases hgates : (s.passGates e.spec e.input r).outcome with
  | error response =>
    rw [(openStream_of_stopped hgates).2, hquiet] at h
    cases h
  | ok passed =>
    rw [(openStream_of_passed hgates).2, Event.calls_append, hquiet, List.nil_append] at h
    exact congrArg Except.ok (List.mem_singleton.mp h).symm

/-- **What is opened:** the gates have let the request pass, and the rest follows from its context and
its input. -/
theorem passed_of_openStream (h : (s.openStream p e r).outcome = .ok c) :
    ∃ context x, (s.passGates e.spec e.input r).outcome = .ok (context, x) ∧
      c = ⟨committedStatus, s.committedHeaders context.requestId,
        .start p.bufferSize p.keepAlive context.cancelled (e.callback context x)⟩ := by
  cases hgates : (s.passGates e.spec e.input r).outcome with
  | error response =>
    rw [(openStream_of_stopped hgates).1] at h
    cases h
  | ok passed =>
    rw [(openStream_of_passed hgates).1] at h
    exact ⟨passed.1, passed.2, rfl, (Except.ok.inj h).symm⟩

/-- Every stream begins fresh, with the size and the period of the policy. -/
theorem exists_live_of_openStream (h : (s.openStream p e r).outcome = .ok c) :
    ∃ cancelled callback, c.live = .start p.bufferSize p.keepAlive cancelled callback := by
  obtain ⟨context, x, -, rfl⟩ := passed_of_openStream h
  exact ⟨_, _, rfl⟩

/-- A stream is in order when it is opened. -/
theorem orderly_of_openStream (h : (s.openStream p e r).outcome = .ok c) :
    Shared.Orderly { live := c.live } := by
  obtain ⟨cancelled, callback, hlive⟩ := exists_live_of_openStream h
  rw [hlive]
  exact Shared.orderly_start _ _ _ _

/-- **What a stream delivers.** In whatever order its client, its callback, other writers and the
time go on: what the client received, but for the frames that keep the stream open, are the first
ones of all frames that were sent, and all of them if the client saw the end.  To see it the client
need only go on polling once the stream is closed, and this tells nobody that the client has gone;
leaving before does, for good.  When the callback has returned without an error, the stream can only
end with the number of all events that were sent, and unless the send of another writer waits, it
does.  Of the runs that take turns none is left out. -/
theorem stream_delivers (h : (s.openStream p e r).outcome = .ok c) (acts : List Act) :
    let t := Shared.run { live := c.live } acts
    t.live.received = t.deliveries.map Delivery.text
    ∧ t.frames.map .ok <+: t.accepted.map Outgoing.frame
    ∧ (t.live.client = .sawEnd → t.frames.map .ok = t.accepted.map Outgoing.frame)
    ∧ (t.live.channel.writing = false → t.live.client = .reading →
        (t.run (List.replicate (t.live.channel.queue.length + 1) .poll)).live.client = .sawEnd)
    ∧ ((t.step .poll).live.channel.lost = t.live.channel.lost
        ∧ (t.step .poll).live.channel.cancelled = t.live.channel.cancelled
        ∧ (t.live.client = .sawEnd → t.step .leave = t))
    ∧ (t.live.client = .reading → ∀ more,
        ((t.step .leave).run more).live.channel.lost = true
        ∧ ((t.step .leave).run more).live.channel.cancelled = true)
    ∧ (t.live.pause = .start (.finish (.ok ())) → ∀ more outcome,
        (t.run more).live.end? = some outcome →
        outcome = .completed ((t.run more).accepted.countP Outgoing.isEvent))
    ∧ (∀ result, t.live.pause = .start (.finish result) → t.waiting = none →
        ∃ n ≤ 2, (t.run (List.replicate n .proceed)).live.end?
          = some (.ofResult t.live.channel.close result))
    ∧ (∀ limit moves, ∃ more,
        (Shared.run { live := c.live } more).live = Live.run limit moves c.live) := by
  intro t
  have ht : t.Orderly := (orderly_of_openStream h).run acts
  refine ⟨ht.received, ht.frames_isPrefix, ht.frames_of_sawEnd, ht.client_run_poll, ?_, ?_, ?_, ?_,
    ?_⟩
  · -- A poll touches neither the flag nor the signal.
    have hlost := congrArg Channel.lost t.live.channel_poll
    have hcancelled := congrArg Channel.cancelled t.live.channel_poll
    refine ⟨hlost, hcancelled, fun hend => Shared.step_leave_of_not_reading ?_⟩
    exact hend ▸ Client.noConfusion
  · intro hclient more
    -- Order says how the channel is for a client who has left, and such a client does not come
    -- back.
    have hsees := ((ht.step .leave).run more).sees
    rw [Shared.client_run_of_left (Shared.client_leave hclient) more] at hsees
    exact hsees
  · intro hpause more outcome houtcome
    have hreturned : (t.run more).Returned := Shared.Returned.run (Or.inl hpause) more
    exact (ht.run more).end_of_returned hreturned houtcome
  · intro result hpause hwaiting
    obtain ⟨n, hn, hrun⟩ := Shared.run_finish hpause hwaiting
    refine ⟨n, hn, ?_⟩
    rw [hrun]
    rfl
  · intro limit moves
    -- A run that takes turns is a list of steps, and each of them is an act of the shared stream.
    obtain ⟨made, hmade⟩ := Live.exists_steps_run limit moves c.live
    obtain ⟨cancelled, callback, hlive⟩ := exists_live_of_openStream h
    have halone : Shared.Alone { live := c.live } := by
      rw [hlive]
      rfl
    obtain ⟨more, -, hmore⟩ := Shared.comesTo_steps halone made
    exact ⟨more, hmore.trans hmade.symm⟩

/-- A callback that sends one event: the client receives it, and the end counts it. -/
theorem stream_delivers_one :
    ∃ c, (({} : Service).openStream {} (.bind (.build "probe" "GET" "/probe" [])
          ⟨.noBody, fun _ => .ok (), ()⟩ .noBody
          fun _ _ => .send (.event { data := "one" }) fun _ => .finish (.ok ())) .probe).outcome
        = .ok c ∧
      let t := Shared.run { live := c.live } [.poll, .proceed, .poll]
      t.live.received = [ServerEvent.text { data := "one" }] ∧
        ∃ n ≤ 2, (t.run (List.replicate n .proceed)).live.end? = some (.completed 1) := by
  refine ⟨_, rfl, ?_⟩
  obtain ⟨hreceived, -, -, -, -, -, -, hends, -⟩ := stream_delivers (s := {}) (p := {})
    (e := .bind (.build "probe" "GET" "/probe" []) ⟨.noBody, fun _ => .ok (), ()⟩ .noBody
      fun _ _ => .send (.event { data := "one" }) fun _ => .finish (.ok ()))
    (r := .probe) rfl [.poll, .proceed, .poll]
  exact ⟨hreceived, hends (.ok ()) rfl rfl⟩

end Service

end Callpoint
