import Callpoint.Proofs.Stream.Usage
import Callpoint.Stream.Shared

/-!
# Streams with one writer

`Callback.advance` lets a callback do all that it can do without waiting; `Shared.proceed` lets it
do one thing.  Nothing is lost by going step by step: whatever a stream can do by `Live.step` while
nobody but the callback sends, it does by steps of `Shared.step` as well (`Shared.comesTo_steps`).
-/

namespace Callpoint

theorem Channel.close_of_closed {c : Channel} (h : c.writing = false) : c.close = c := by
  unfold close
  rw [← h]

/-! ### Polls -/

namespace Live

/-- **What a poll does,** and what it brings. -/
inductive Polls (s : Live) : Live → Option Delivery → Prop
  | nothing : Polls s s none
  | frame {frame : String} {rest : List String} (h : s.client = .reading)
      (hreceiver : s.channel.receiver ≠ .gone) (hqueue : s.channel.queue = frame :: rest) :
      Polls s { s.receive frame with channel := { s.channel with queue := rest } }
        (some (.queued frame))
  | keepAlive (h : s.client = .reading) : Polls s (s.receive keepAliveFrame) (some .keepAlive)
  | ended (h : s.client = .reading) (hqueue : s.channel.queue = [])
      (hclosed : ¬ (s.channel.writing = true ∧ s.channel.receiver = .taking)) :
      Polls s { s with client := .sawEnd } none

/-- A poll and what it brings are read off the same look at the channel. -/
theorem polls_poll (s : Live) : s.Polls s.poll s.delivery? := by
  unfold poll delivery? Channel.take
  by_cases hclient : s.client = .reading
  · rw [if_neg (not_not_intro hclient), if_neg (not_not_intro hclient)]
    by_cases hreceiver : s.channel.receiver = .gone
    · rw [if_pos hreceiver]
      exact .nothing
    rw [if_neg hreceiver]
    -- The queue comes first, then the end, then a keep-alive frame that is due.
    cases hqueue : s.channel.queue with
    | cons frame rest => exact .frame hclient hreceiver hqueue
    | nil =>
      by_cases hclosed : s.channel.writing = true ∧ s.channel.receiver = .taking
      · simp only [if_pos hclosed]
        split
        · exact .keepAlive hclient
        · exact .nothing
      · simp only [if_neg hclosed]
        exact .ended hclient hqueue hclosed
  · rw [if_pos hclient, if_pos hclient]
    exact .nothing

/-- A poll does not move the callback. -/
theorem pause_poll (s : Live) : s.poll.pause = s.pause := by
  have hpolls := s.polls_poll
  generalize s.poll = after at hpolls ⊢
  generalize s.delivery? = delivery at hpolls
  cases hpolls <;> rfl

/-- A poll does nothing to a channel but to take a frame. -/
theorem channel_poll (s : Live) :
    s.poll.channel = { s.channel with queue := s.poll.channel.queue } := by
  have hpolls := s.polls_poll
  generalize s.poll = after at hpolls ⊢
  generalize s.delivery? = delivery at hpolls
  cases hpolls <;> rfl

theorem pause_leave (s : Live) : s.leave.pause = s.pause := by
  unfold leave
  split <;> rfl

end Live

/-! ### In one go -/

/-- The stream when its callback has run up to where it has to wait. -/
def Live.advanced (s : Live) (a : Advanced) : Live :=
  { s with pause := a.pause, channel := a.channel, notes := a.notes }

/-- How far a callback runs behind something that it sent. -/
def Advanced.afterSending (now : Nat) (isEvent : Bool) (next : Except StreamError Unit → Callback)
    (notes : List Json) : Channel.Sending × Channel → Advanced
  | (.settled r, c) => (next r).advance now c notes
  | (.waiting frame, c) => ⟨.forRoom frame isEvent next, c, notes⟩

/-- A callback that sends runs on only behind a send that was settled. -/
theorem Callback.advance_send (now : Nat) (o : Outgoing)
    (next : Except StreamError Unit → Callback) (c : Channel) (notes : List Json) :
    (Callback.send o next).advance now c notes
      = .afterSending now o.isEvent next notes (c.send o) := by
  simp only [advance]
  generalize c.send o = sending
  obtain ⟨sending, after⟩ := sending
  cases sending <;> rfl

theorem Pause.resume_forRoom (now : Nat) (frame : String) (isEvent : Bool)
    (next : Except StreamError Unit → Callback) (c : Channel) (notes : List Json) :
    (Pause.forRoom frame isEvent next).resume now c notes
      = .afterSending now isEvent next notes (c.resend frame isEvent) := by
  simp only [resume]
  generalize hsending : c.resend frame isEvent = sending
  have hresends := c.resends_resend frame isEvent
  rw [hsending] at hresends
  cases hresends <;> rfl

namespace Shared

variable {s t : Shared}

/-! ### Single things -/

theorem proceed_of_start {next : Callback} (hpause : s.live.pause = .start next) :
    s.proceed = s.perform next := by
  unfold proceed
  rw [hpause]

theorem live_withPause (s : Shared) (p : Pause) :
    (s.withPause p).live = { s.live with pause := p } := rfl

/-- To close changes the channel and nothing else of a stream. -/
theorem use_close (hwaiting : s.waiting = none) :
    s.use .close = { s with live := { s.live with channel := s.live.channel.close } } := by
  have husage : s.usage.step .close = { s.usage with channel := s.live.channel.close } :=
    Usage.step_close (u := s.usage) hwaiting
  unfold use
  rw [husage]
  rfl

/-- To send changes the channel, and it may leave the send waiting. -/
theorem use_send (o : Outgoing) (hwaiting : s.waiting = none) :
    (s.use (.send o)).live = { s.live with channel := (s.live.channel.send o).2 } ∧
      (s.use (.send o)).waiting = (s.usage.settle o (s.live.channel.send o)).waiting := by
  have hstep : s.usage.step (.send o) = s.usage.settle o (s.live.channel.send o) :=
    Usage.step_send (u := s.usage) o hwaiting
  have hchannel := (s.usage.settle_keeps o (s.live.channel.send o)).2.2
  unfold use
  rw [hstep]
  exact ⟨congrArg (fun c => { s.live with channel := c }) hchannel, rfl⟩

theorem use_resend {o : Outgoing} {frame : String} (hwaiting : s.waiting = some (o, frame)) :
    (s.use .resend).live =
        { s.live with channel := (s.live.channel.resend frame o.isEvent).2 } ∧
      (s.use .resend).waiting =
        (s.usage.settle o (s.live.channel.resend frame o.isEvent)).waiting := by
  have hstep : s.usage.step .resend = s.usage.settle o (s.live.channel.resend frame o.isEvent) :=
    Usage.step_resend (u := s.usage) hwaiting
  have hchannel := (s.usage.settle_keeps o (s.live.channel.resend frame o.isEvent)).2.2
  unfold use
  rw [hstep]
  exact ⟨congrArg (fun c => { s.live with channel := c }) hchannel, rfl⟩

/-- A callback that has returned ends the stream, unless the send of another task holds it up. -/
theorem run_finish {result : Except Chain Unit} (hpause : s.live.pause = .start (.finish result))
    (hwaiting : s.waiting = none) :
    ∃ n ≤ 2, s.run (List.replicate n .proceed) = { s with live := { s.live with
      channel := s.live.channel.close
      pause := .ended (.ofResult s.live.channel.close result) } } := by
  have hended : ∀ t : Shared, t.live.pause = .start (.finish result) →
      t.live.channel.writing = false →
      t.proceed = t.withPause (.ended (.ofResult t.live.channel result)) := by
    intro t hpause hwriting
    rw [proceed_of_start hpause]
    exact if_neg (hwriting ▸ Bool.false_ne_true)
  -- The first step closes the stream, unless the callback has done so; the last one tells the end.
  cases hwriting : s.live.channel.writing with
  | true =>
    refine ⟨2, Nat.le_refl _, ?_⟩
    have hclose : s.proceed = s.use .close := (proceed_of_start hpause).trans (if_pos hwriting)
    show s.proceed.proceed = _
    rw [hclose, use_close hwaiting]
    exact hended _ hpause rfl
  | false =>
    refine ⟨1, by decide, ?_⟩
    rw [Channel.close_of_closed hwriting]
    exact hended s hpause hwriting

/-! ### One by one -/

/-- Nobody but the callback sends: what waits for room is what the callback sent. -/
def Alone (s : Shared) : Prop :=
  match s.live.pause with
  | .forRoom frame isEvent _ => ∃ o, s.waiting = some (o, frame) ∧ o.isEvent = isEvent
  | _ => s.waiting = none

/-- Nobody but the callback sends while the stream gets this far. -/
def ComesTo (s : Shared) (l : Live) : Prop := ∃ acts, (s.run acts).Alone ∧ (s.run acts).live = l

theorem comesTo_self (h : s.Alone) : s.ComesTo s.live := ⟨[], h, rfl⟩

theorem ComesTo.head {l : Live} {a : Act} (h : (s.step a).ComesTo l) : s.ComesTo l := by
  obtain ⟨acts, hacts⟩ := h
  exact ⟨a :: acts, hacts⟩

theorem ComesTo.proceed {l : Live} (hstep : s.proceed = t) (h : t.ComesTo l) : s.ComesTo l := by
  subst hstep
  exact ComesTo.head (a := .proceed) h

/-- A callback goes on behind a send that was settled, and waits behind one that was not. -/
theorem comesTo_of_sending {o : Outgoing} {next : Except StreamError Unit → Callback}
    {sending : Channel.Sending × Channel} {u : Usage} {l : Live}
    (hnext : ∀ (r) {t : Shared}, t.live.pause = .start (next r) → t.waiting = none →
      t.ComesTo (t.live.advanced ((next r).advance t.live.now t.live.channel t.live.notes)))
    (hlive : t.live =
      { l with channel := sending.2, pause := .ofSending o.isEvent next sending.1 })
    (hwaiting : t.waiting = (u.settle o sending).waiting) :
    t.ComesTo (l.advanced (.afterSending l.now o.isEvent next l.notes sending)) := by
  obtain ⟨sending, c⟩ := sending
  cases sending with
  | settled r =>
    -- Behind a settled send the callback runs on, and that is what `hnext` is for.
    have hgo := hnext r (t := t) (by rw [hlive]; rfl) hwaiting
    rw [hlive] at hgo
    exact hgo
  | waiting frame =>
    have halone : t.Alone := by
      unfold Alone
      rw [hlive]
      exact ⟨o, hwaiting, rfl⟩
    have hself := comesTo_self halone
    rw [hlive] at hself
    exact hself

/-- What the callback does in one go, it does one by one. -/
theorem comesTo_advance (next : Callback) (hpause : s.live.pause = .start next)
    (hwaiting : s.waiting = none) :
    s.ComesTo (s.live.advanced (next.advance s.live.now s.live.channel s.live.notes)) := by
  -- Induction on the callback: each case does its first thing by `proceed` and leaves the rest to
  -- the hypothesis.
  induction next generalizing s with
  | finish result =>
    obtain ⟨n, -, hrun⟩ := run_finish hpause hwaiting
    refine ⟨_, ?_, congrArg Shared.live hrun⟩
    rw [hrun]
    exact hwaiting
  | send o next ih =>
    obtain ⟨hlive, hsettle⟩ := use_send o hwaiting
    have hproceed : s.proceed = (s.use (.send o)).withPause
        (.ofSending o.isEvent next (s.live.channel.send o).1) := by
      rw [proceed_of_start hpause]
      exact if_neg (by rw [hwaiting]; exact Bool.false_ne_true)
    rw [Callback.advance_send]
    refine ComesTo.proceed hproceed (comesTo_of_sending ih ?_ hsettle)
    rw [live_withPause, hlive]
  | close next ih =>
    have hproceed : s.proceed = (s.use .close).withPause (.start next) := by
      rw [proceed_of_start hpause]
      exact if_neg (by rw [hwaiting]; exact Bool.false_ne_true)
    rw [use_close hwaiting] at hproceed
    exact ComesTo.proceed hproceed (ih rfl hwaiting)
  | cancel next ih => exact ComesTo.proceed (proceed_of_start hpause) (ih rfl hwaiting)
  | sleep duration next ih =>
    exact ComesTo.proceed (proceed_of_start hpause) (comesTo_self hwaiting)
  | untilCancelled next ih =>
    refine ComesTo.proceed (proceed_of_start hpause) ?_
    simp only [Callback.advance]
    -- Of a request that is cancelled the callback learns in a second step.
    split
    · next hcancelled => exact ComesTo.proceed (if_pos hcancelled) (ih rfl hwaiting)
    · exact comesTo_self hwaiting
  | inquire next ih =>
    exact ComesTo.proceed (proceed_of_start hpause) (ih _ _ _ rfl hwaiting)
  | note entry next ih => exact ComesTo.proceed (proceed_of_start hpause) (ih rfl hwaiting)

/-- A callback goes on when what it waits for has come, and till then the stream stays as it is. -/
theorem comesTo_wait {p : Pause} (hpause : s.live.pause = p) (hwaiting : s.waiting = none)
    (h : s.Alone) {come : Prop} [Decidable come] {next : Callback}
    (hcome : come → s.proceed = s.withPause (.start next)) :
    s.ComesTo (s.live.advanced (if come then next.advance s.live.now s.live.channel s.live.notes
      else ⟨p, s.live.channel, s.live.notes⟩)) := by
  subst hpause
  split
  · next h =>
    exact ComesTo.proceed (hcome h)
      (comesTo_advance (s := s.withPause (.start next)) next rfl hwaiting)
  · exact comesTo_self h

/-- What a callback does in one go when it no longer has to wait, it does one by one. -/
theorem comesTo_resume (h : s.Alone) : s.ComesTo s.live.resume := by
  have hresume : s.live.resume
      = s.live.advanced (s.live.pause.resume s.live.now s.live.channel s.live.notes) := rfl
  have halone := h
  unfold Alone at h
  rw [hresume]
  cases hpause : s.live.pause with
  | start next =>
    rw [hpause] at h
    exact comesTo_advance next hpause h
  | forRoom frame isEvent next =>
    rw [hpause] at h
    obtain ⟨o, hwaiting, rfl⟩ := h
    obtain ⟨hlive, hsettle⟩ := use_resend hwaiting
    have hproceed : s.proceed = (s.use .resend).withPause
        (.ofSending o.isEvent next (s.live.channel.resend frame o.isEvent).1) := by
      unfold Shared.proceed
      rw [hpause]
    rw [Pause.resume_forRoom]
    refine ComesTo.proceed hproceed
      (comesTo_of_sending (fun r => comesTo_advance (next r)) ?_ hsettle)
    rw [live_withPause, hlive]
  | untilTime time next =>
    rw [hpause] at h
    refine comesTo_wait hpause h halone fun hcome => ?_
    unfold Shared.proceed
    rw [hpause]
    exact if_pos hcome
  | untilCancelled next =>
    rw [hpause] at h
    refine comesTo_wait hpause h halone fun hcome => ?_
    unfold Shared.proceed
    rw [hpause]
    exact if_pos hcome
  | ended outcome =>
    have hself : s.live.advanced ⟨.ended outcome, s.live.channel, s.live.notes⟩ = s.live := by
      rw [← hpause]
      rfl
    show s.ComesTo (s.live.advanced ⟨.ended outcome, s.live.channel, s.live.notes⟩)
    rw [hself]
    exact comesTo_self halone

theorem ComesTo.trans {l l' : Live} (h : s.ComesTo l)
    (hnext : ∀ t : Shared, t.Alone → t.live = l → t.ComesTo l') : s.ComesTo l' := by
  obtain ⟨acts, halone, hlive⟩ := h
  obtain ⟨more, hmore⟩ := hnext _ halone hlive
  refine ⟨acts ++ more, ?_⟩
  unfold run at hmore ⊢
  rw [List.foldl_append]
  exact hmore

/-- Who waits and where the callback stands is all that being alone depends on. -/
theorem alone_of_pause_eq (h : s.Alone) (hpause : t.live.pause = s.live.pause)
    (hwaiting : t.waiting = s.waiting) : t.Alone := by
  unfold Alone
  rw [hpause, hwaiting]
  exact h

/-- Every move of a stream that is alone is made of steps. -/
theorem comesTo_step (h : s.Alone) (m : Move) : s.ComesTo (s.live.step m) := by
  cases m with
  | poll =>
    exact ComesTo.head (a := .poll)
      (comesTo_self (alone_of_pause_eq h s.live.pause_poll rfl))
  | leave =>
    exact ComesTo.head (a := .leave)
      (comesTo_self (alone_of_pause_eq h s.live.pause_leave rfl))
  | resume => exact comesTo_resume h
  | elapse duration =>
    exact ComesTo.head (a := .elapse duration) (comesTo_self (alone_of_pause_eq h rfl rfl))

/-- **Streams with one writer are streams with several.** Whatever moves are made, there are steps
of a stream with several writers that lead to the same. -/
theorem comesTo_steps (h : s.Alone) (moves : List Move) : s.ComesTo (s.live.steps moves) := by
  induction moves generalizing s with
  | nil => exact comesTo_self h
  | cons m moves ih =>
    -- The state that is reached is alone again, so the moves that are left start as these did.
    refine (comesTo_step h m).trans fun t ht hlive => ?_
    have hrest := ih ht
    rw [hlive] at hrest
    exact hrest

end Shared

/-- Taking turns is one way to make moves. -/
theorem Live.exists_steps_run (limit : Option Nat) (n : Nat) (s : Live) :
    ∃ moves, Live.run limit n s = s.steps moves := by
  induction n generalizing s with
  | zero => exact ⟨[], rfl⟩
  | succ n ih =>
    unfold run
    cases hnext : s.next? limit with
    | none => exact ⟨[], rfl⟩
    | some m =>
      obtain ⟨moves, hmoves⟩ := ih (s.step m)
      exact ⟨m :: moves, hmoves⟩

end Callpoint
