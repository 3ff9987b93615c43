import Callpoint.Proofs.Exchange.Traces
import Callpoint.Proofs.Stream.Delivery
import Callpoint.Proofs.Stream.Statuses

/-!
# Traces of streams

A stream that is opened has the signals of gates that open, and then those of a response with status
200.  The one signal that is left tells how the stream ended.  It is sent when the callback has
returned (`Shared.signals_step`), and nothing follows it (`Shared.signals_run_of_ended`).
-/

namespace Callpoint

/-- **The signals of the end of a stream.** -/
inductive EndTrace : List Signal → Prop
  | closed (events : Nat) : EndTrace [.streamClosed events]
  | disconnected (events : Nat) : EndTrace [.streamDisconnected events]
  | failed (reason : String) : EndTrace [.streamFailed reason]

theorem endTrace_signal (outcome : StreamEnd) (sent : Nat) : EndTrace [outcome.signal sent] := by
  cases outcome with
  | completed events => exact .closed events
  | disconnected => exact .disconnected sent
  | failed e => exact .failed e.text

namespace Live

/-- A stream that has ended tells its end, with the events that were counted by then. -/
theorem signals_of_ended {s : Live} {outcome : StreamEnd} (h : s.pause = .ended outcome) :
    s.signals = [outcome.signal s.channel.sent] := by
  unfold signals end?
  rw [h]
  rfl

theorem signals_eq_nil {s : Live} (h : ∀ outcome, s.pause ≠ .ended outcome) : s.signals = [] := by
  unfold signals end?
  split
  · next outcome hpause => exact absurd hpause (h outcome)
  · rfl

theorem sent_leave (s : Live) : s.leave.channel.sent = s.channel.sent := by
  unfold leave
  split <;> rfl

end Live

namespace Shared

variable {s : Shared}

/-- What can bring the end: the callback has returned. -/
theorem pause_of_proceed_ended {outcome : StreamEnd} (h : s.proceed.live.pause = .ended outcome) :
    s.live.pause = .ended outcome ∨ ∃ result, s.live.pause = .start (.finish result) := by
  -- Behind a send a callback stands anywhere but at the end.
  have hsending : ∀ isEvent next sending,
      Pause.ofSending isEvent next sending ≠ .ended outcome := by
    intro isEvent next sending
    cases sending <;> exact Pause.noConfusion
  unfold proceed at h
  cases hpause : s.live.pause with
  | start next =>
    rw [hpause] at h
    cases next with
    | finish result => exact Or.inr ⟨result, rfl⟩
    | send o next =>
      simp only [perform] at h
      split at h
      · exact absurd (hpause.symm.trans h) Pause.noConfusion
      · exact absurd h (hsending _ _ _)
    | close next =>
      simp only [perform] at h
      split at h
      · exact absurd (hpause.symm.trans h) Pause.noConfusion
      · cases h
    | cancel next => cases h
    | sleep duration next => cases h
    | untilCancelled next => cases h
    | inquire next => cases h
    | note entry next => cases h
  | forRoom frame isEvent next =>
    rw [hpause] at h
    exact absurd h (hsending _ _ _)
  | untilTime time next =>
    simp only [hpause] at h
    split at h
    · cases h
    · exact absurd (hpause.symm.trans h) Pause.noConfusion
  | untilCancelled next =>
    simp only [hpause] at h
    split at h
    · cases h
    · exact absurd (hpause.symm.trans h) Pause.noConfusion
  | ended other =>
    simp only [hpause] at h
    exact Or.inl h

theorem proceed_of_ended {outcome : StreamEnd} (hpause : s.live.pause = .ended outcome) :
    s.proceed = s := by
  unfold proceed
  rw [hpause]

/-- Nothing that is done to a stream that has ended changes the signal of its end. -/
theorem step_of_ended (h : s.Orderly) {outcome : StreamEnd} (hpause : s.live.pause = .ended outcome)
    (a : Act) :
    (s.step a).live.pause = .ended outcome ∧
      (s.step a).live.channel.sent = s.live.channel.sent := by
  -- The stream was closed when it ended, and a closed channel counts no more events.
  have hwriting : s.usage.channel.writing = false := by
    have hsuits := h.suits
    rw [hpause] at hsuits
    exact hsuits.1
  cases a with
  | poll =>
    have hsent := congrArg Channel.sent s.live.channel_poll
    exact ⟨s.live.pause_poll.trans hpause, hsent⟩
  | leave => exact ⟨s.live.pause_leave.trans hpause, s.live.sent_leave⟩
  | elapse duration => exact ⟨hpause, rfl⟩
  | proceed =>
    show s.proceed.live.pause = _ ∧ s.proceed.live.channel.sent = _
    rw [proceed_of_ended hpause]
    exact ⟨hpause, rfl⟩
  | other x =>
    simp only [step]
    split
    · exact ⟨hpause, ((Usage.change_step h.balanced.held x).of_closed hwriting).2.2.1⟩
    · exact ⟨hpause, rfl⟩

/-- **A stream sends one signal more,** and sends it when its callback has returned. -/
theorem signals_step (h : s.Orderly) (a : Act) :
    (s.step a).live.signals = s.live.signals ∨
      a = .proceed ∧ (∃ result, s.live.pause = .start (.finish result)) ∧ s.live.signals = [] := by
  -- A stream that has ended repeats its signal, and one that has not may end in this step.
  by_cases hended : ∃ outcome, s.live.pause = .ended outcome
  · obtain ⟨outcome, hpause⟩ := hended
    obtain ⟨hafter, hsent⟩ := step_of_ended h hpause a
    left
    rw [Live.signals_of_ended hafter, Live.signals_of_ended hpause, hsent]
  have hbefore : s.live.signals = [] :=
    Live.signals_eq_nil fun outcome hpause => hended ⟨outcome, hpause⟩
  by_cases hafter : ∃ outcome, (s.step a).live.pause = .ended outcome
  · obtain ⟨outcome, hafter⟩ := hafter
    right
    -- Nobody but the callback can have brought the end.
    have ha : a = .proceed := by
      by_contra ha
      exact hended ⟨outcome, (pause_step_of_ne ha s).symm.trans hafter⟩
    subst ha
    rcases pause_of_proceed_ended hafter with hpause | hreturned
    · exact absurd ⟨outcome, hpause⟩ hended
    · exact ⟨rfl, hreturned, hbefore⟩
  · left
    rw [hbefore]
    exact Live.signals_eq_nil fun outcome hpause => hafter ⟨outcome, hpause⟩

/-- The signal of the end is the last one. -/
theorem signals_run_of_ended (h : s.Orderly) (hsignals : s.live.signals ≠ []) (acts : List Act) :
    (s.run acts).live.signals = s.live.signals :=
  (List.foldlRecOn acts step
    (motive := fun t => t.Orderly ∧ t.live.signals = s.live.signals) ⟨h, rfl⟩ fun t ht a _ => by
      refine ⟨ht.1.step a, ?_⟩
      -- The other case needs a stream without signals.
      rcases signals_step ht.1 a with hsame | ⟨-, -, hnone⟩
      · exact hsame.trans ht.2
      · exact absurd (ht.2.symm.trans hnone) hsignals).2

/-- **A stream tells its end once:** there is no signal of it, or the one; it is the last signal;
it is sent when the callback has returned; and then it is sent, unless the send of another writer
waits. -/
structure TellsEnd (s : Shared) : Prop where
  trace : s.live.signals = [] ∨ EndTrace s.live.signals
  last : s.live.signals ≠ [] → ∀ acts, (s.run acts).live.signals = s.live.signals
  returned : ∀ a, (s.step a).live.signals ≠ s.live.signals →
    ∃ result, s.live.pause = .start (.finish result)
  told : ∀ result, s.live.pause = .start (.finish result) → s.waiting = none →
    ∃ n ≤ 2, EndTrace (s.run (List.replicate n .proceed)).live.signals

/-- A stream that is in order tells its end once. -/
theorem Orderly.tellsEnd (h : s.Orderly) : s.TellsEnd where
  trace := by
    by_cases hended : ∃ outcome, s.live.pause = .ended outcome
    · obtain ⟨outcome, hpause⟩ := hended
      rw [Live.signals_of_ended hpause]
      exact Or.inr (endTrace_signal outcome _)
    · exact Or.inl (Live.signals_eq_nil fun outcome hpause => hended ⟨outcome, hpause⟩)
  last := signals_run_of_ended h
  returned := by
    intro a hchange
    rcases signals_step h a with hsame | ⟨-, hreturned, -⟩
    · exact absurd hsame hchange
    · exact hreturned
  told := by
    intro result hpause hwaiting
    obtain ⟨n, hn, hrun⟩ := run_finish hpause hwaiting
    refine ⟨n, hn, ?_⟩
    rw [hrun]
    exact endTrace_signal _ _

end Shared

namespace Service

variable {α β : Type} {s : Service} {p : StreamPolicy} {f : StreamEndpoint α} {r : Request}

/-- A stream that is not opened has the signals of its gates. -/
theorem signals_openStream_of_error {response : Response}
    (h : (s.openStream p f r).outcome = .error response) :
    ∃ t, GatesTrace f.spec.input.placeholder response.status false t ∧
      Event.signals (s.openStream p f r).events = t ++ [.responseWritten response.status] := by
  have hgates : (s.passGates f.spec f.input r).Traces (GatesTrace f.spec.input.placeholder) :=
    traces_passGates
  have houtcome := stopped_of_openStream h
  rw [(openStream_of_stopped houtcome).2]
  exact (Course.traces_of_error houtcome).mp hgates

/-- One that is opened has those of open gates, its opening and its response. -/
theorem signals_openStream_of_ok {c : Committed} (h : (s.openStream p f r).outcome = .ok c) :
    ∃ t, GatesTrace f.spec.input.placeholder committedStatus true t ∧
      Event.signals (s.openStream p f r).events
        = t ++ [.streamOpened, .responseWritten committedStatus] := by
  have hgates : (s.passGates f.spec f.input r).Traces (GatesTrace f.spec.input.placeholder) :=
    traces_passGates
  obtain ⟨context, x, houtcome, -⟩ := passed_of_openStream h
  rw [(openStream_of_passed houtcome).2, Event.signals_append]
  exact ⟨_, (Course.traces_of_ok houtcome).mp hgates committedStatus, rfl⟩

/-- **The signals of a call, and of a stream.** The signals of a call are one of the traces that the
grammar allows, for the status of the response; the last one, and no other, is that of the response.
A stream that is not opened has the same signals as a call that meets a gate that stays shut.  One
that is opened has the signals of open gates, of its opening and of a response with status 200; and
then, whatever its client, its callback, other writers and the time do, none until its callback has
returned, and one more that tells the end.  An observer sees them all in this order, whatever other
observers do. -/
theorem signals_are_traces (s : Service) (e : Endpoint α β) (f : StreamEndpoint α)
    (p : StreamPolicy) (r : Request) :
    CallTrace e.spec.input.placeholder (s.serve e r).2.response.status
      (Event.signals (s.serve e r).1)
    ∧ (∃ front, Event.signals (s.serve e r).1
          = front ++ [.responseWritten (s.serve e r).2.response.status]
        ∧ front.any Signal.isResponse = false)
    ∧ (∀ response, (s.openStream p f r).outcome = .error response →
        ∃ t, GatesTrace f.spec.input.placeholder response.status false t
          ∧ Event.signals (s.openStream p f r).events = t ++ [.responseWritten response.status])
    ∧ (∀ c, (s.openStream p f r).outcome = .ok c →
        c.status = 200
        ∧ (∃ t, GatesTrace f.spec.input.placeholder 200 true t
          ∧ Event.signals (s.openStream p f r).events = t ++ [.streamOpened, .responseWritten 200])
        ∧ c.live.signals = []
        ∧ ∀ acts, (Shared.run { live := c.live } acts).TellsEnd)
    ∧ (∀ observers i endpoint signals, observers[i]? = some Observer.recording →
        Observer.seenAt i (Observer.emitAll observers endpoint signals)
          = signals.map fun signal => ⟨endpoint, signal⟩) := by
  have hcall := callTrace_serve s e r
  refine ⟨hcall, hcall.exists_front, fun _ => signals_openStream_of_error, ?_,
    fun _ _ endpoint signals h => Observer.seenAt_emitAll h endpoint signals⟩
  intro c hc
  obtain ⟨cancelled, callback, hlive⟩ := exists_live_of_openStream hc
  refine ⟨status_of_openStream hc, signals_openStream_of_ok hc, by rw [hlive]; rfl, fun acts => ?_⟩
  exact ((orderly_of_openStream hc).run acts).tellsEnd

/-- The smallest stream tells that it was opened, that it was answered, and that it was closed. -/
theorem signals_are_traces_silent :
    ∃ c, (({} : Service).openStream {} (.silent []) .probe).outcome = .ok c ∧ ∃ n ≤ 2,
      EndTrace (Shared.run { live := c.live } (List.replicate n .proceed)).live.signals := by
  refine ⟨_, rfl, ?_⟩
  obtain ⟨-, -, -, hopened, -⟩ :=
    signals_are_traces {} (.always [] (.ok ())) (.silent []) {} .probe
  obtain ⟨-, -, -, hends⟩ := hopened _ rfl
  exact (hends []).told (.ok ()) rfl rfl

end Service

end Callpoint
