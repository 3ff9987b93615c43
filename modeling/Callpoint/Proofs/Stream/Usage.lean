import Mathlib.Data.List.Forall2
import Callpoint.Proofs.Stream.Frames
import Callpoint.Stream.Usage

/-!
# What a channel in use keeps

`Usage.change_step` lists everything that a use can do to a channel.  What holds of a channel at any
time follows from it case by case: the frames ever queued are those of the accepted sends, in order,
and the events among them are counted (`Usage.Balanced`); a channel that refuses goes on refusing
(`Usage.Change.refuses`), and one that is closed takes in nothing more (`Usage.Change.of_closed`).

A client that reads what was queued finds what was sent (`Usage.reads_accepted`).
-/

namespace Callpoint

namespace Channel

/-! ### Sending -/

/-- **How a send goes,** and what it leaves behind. -/
inductive Sends (c : Channel) (o : Outgoing) : Sending × Channel → Prop
  | refused (h : c.refuses = true) : Sends c o (.settled (.error .disconnected), c.noteLoss)
  | invalid {e : StreamError} (h : c.refuses = false) (hframe : o.frame = .error e) :
      Sends c o (.settled (.error e), c)
  | queued {frame : String} (h : c.refuses = false) (hframe : o.frame = .ok frame)
      (hroom : c.queue.length < c.room) : Sends c o (.settled (.ok ()), c.push frame o.isEvent)
  | waiting {frame : String} (h : c.refuses = false) (hframe : o.frame = .ok frame)
      (hfull : c.room ≤ c.queue.length) : Sends c o (.waiting frame, c)

/-- `send` goes one of the ways listed, each under its own condition. -/
theorem sends_send (c : Channel) (o : Outgoing) : c.Sends o (c.send o) := by
  unfold send
  cases hrefuses : c.refuses with
  | true => exact .refused hrefuses
  | false =>
    simp only [Bool.false_eq_true, ↓reduceIte]
    cases hframe : o.frame with
    | error e => exact .invalid hrefuses hframe
    | ok frame =>
      simp only
      split
      · next hroom => exact .queued hrefuses hframe hroom
      · next hfull => exact .waiting hrefuses hframe (Nat.not_lt.mp hfull)

/-- **How a send that waited goes on.** -/
inductive Resends (c : Channel) (frame : String) (isEvent : Bool) : Sending × Channel → Prop
  | refused (h : c.receiver ≠ .taking) :
      Resends c frame isEvent
        (.settled (.error .disconnected), { c.noteLoss with writing := false })
  | queued (h : c.receiver = .taking) (hroom : c.queue.length < c.room) :
      Resends c frame isEvent (.settled (.ok ()), c.push frame isEvent)
  | waiting (h : c.receiver = .taking) (hfull : c.room ≤ c.queue.length) :
      Resends c frame isEvent (.waiting frame, c)

/-- `resend` looks at the receiver alone: neither a close nor a noted loss ends a wait. -/
theorem resends_resend (c : Channel) (frame : String) (isEvent : Bool) :
    c.Resends frame isEvent (c.resend frame isEvent) := by
  unfold resend
  by_cases hreceiver : c.receiver = .taking
  · rw [if_neg (by simp [hreceiver])]
    split
    · next hroom => exact .queued hreceiver hroom
    · next hfull => exact .waiting hreceiver (Nat.not_lt.mp hfull)
  · rw [if_pos (by simp [hreceiver])]
    exact .refused hreceiver

theorem receiver_send (c : Channel) (o : Outgoing) : (c.send o).2.receiver = c.receiver := by
  generalize hsending : c.send o = sending
  have hsends := c.sends_send o
  rw [hsending] at hsends
  cases hsends <;> rfl

theorem receiver_resend (c : Channel) (frame : String) (isEvent : Bool) :
    (c.resend frame isEvent).2.receiver = c.receiver := by
  generalize hsending : c.resend frame isEvent = sending
  have hresends := c.resends_resend frame isEvent
  rw [hsending] at hresends
  cases hresends <;> rfl

/-! ### Refusing -/

/-- The four reasons for which a send is refused before its frame is made. -/
theorem refuses_eq_true_iff (c : Channel) :
    c.refuses = true ↔
      c.writing = false ∨ c.lost = true ∨ c.cancelled = true ∨ c.receiver ≠ .taking := by
  unfold refuses isDisconnected
  simp [or_assoc]

/-- A channel that does not refuse is open on both sides. -/
theorem open_of_refuses_eq_false {c : Channel} (h : c.refuses = false) :
    c.writing = true ∧ c.receiver = .taking := by
  have hnot : ¬ _ := fun hany => Bool.false_ne_true (h.symm.trans (c.refuses_eq_true_iff.mpr hany))
  refine ⟨(Bool.not_eq_false _).mp fun hwriting => hnot (Or.inl hwriting), ?_⟩
  exact Decidable.byContradiction fun hreceiver => hnot (Or.inr (Or.inr (Or.inr hreceiver)))

end Channel

namespace Usage

variable {u v : Usage}

/-! ### What a use can do -/

theorem step_send (o : Outgoing) (h : u.waiting = none) :
    u.step (.send o) = u.settle o (u.channel.send o) := by
  simp only [step, h]

theorem step_send_of_waiting (o : Outgoing) {w : Outgoing × String} (h : u.waiting = some w) :
    u.step (.send o) = u := by
  simp only [step, h]

theorem step_resend {o : Outgoing} {frame : String} (h : u.waiting = some (o, frame)) :
    u.step .resend = u.settle o (u.channel.resend frame o.isEvent) := by
  simp only [step, h]

theorem step_resend_of_settled (h : u.waiting = none) : u.step .resend = u := by
  simp only [step, h]

theorem step_close (h : u.waiting = none) :
    u.step .close = { u with channel := u.channel.close } := by
  simp only [step, h]

theorem step_close_of_waiting {w : Outgoing × String} (h : u.waiting = some w) :
    u.step .close = u := by
  simp only [step, h]

/-- **Everything that a use can do.** -/
inductive Change (u : Usage) : Usage → Prop
  | nothing : Change u u
  | refused (o : Outgoing) {c : Channel}
      (hc : c = u.channel.noteLoss ∨ c = { u.channel.noteLoss with writing := false }) :
      Change u { u with
        channel := c, waiting := none, results := u.results ++ [(o, .error .disconnected)] }
  | invalid (o : Outgoing) {e : StreamError} (hframe : o.frame = .error e) :
      Change u { u with results := u.results ++ [(o, .error e)] }
  | accepted (o : Outgoing) {frame : String} (hframe : o.frame = .ok frame)
      (hopen : u.channel.writing = true ∧ u.channel.receiver = .taking) :
      Change u { u with
        channel := u.channel.push frame o.isEvent, waiting := none
        results := u.results ++ [(o, .ok ())] }
  | waits (o : Outgoing) {frame : String} (hframe : o.frame = .ok frame)
      (hopen : u.channel.writing = true ∧ u.channel.receiver = .taking) :
      Change u { u with waiting := some (o, frame) }
  | givenUp : Change u { u with waiting := none }
  | closed (hwaiting : u.waiting = none) : Change u { u with channel := u.channel.close }
  | cancelled : Change u { u with channel := u.channel.cancel }
  | lost : Change u { u with channel := u.channel.noteLoss }
  | taken {frame : String} {rest : List String} (hreceiver : u.channel.receiver ≠ .gone)
      (hqueue : u.channel.queue = frame :: rest) :
      Change u { u with
        channel := { u.channel with queue := rest }, taken := u.taken ++ [frame] }
  | dropped :
      Change u { u with
        channel := u.channel.dropReceiver, discarded := u.discarded ++ u.channel.queue }

/-- A send waits with the frame that it has, and as long as it waits nobody closes. -/
def Held (u : Usage) : Prop :=
  ∀ o frame, u.waiting = some (o, frame) → o.frame = .ok frame ∧ u.channel.writing = true

/-- The ways of `Sends`, read as changes of the whole use. -/
theorem change_send (o : Outgoing) (hwaiting : u.waiting = none) :
    u.Change (u.settle o (u.channel.send o)) := by
  generalize hsending : u.channel.send o = sending
  have hsends := u.channel.sends_send o
  rw [hsending] at hsends
  cases hsends with
  | refused h => exact .refused o (Or.inl rfl)
  | @invalid e h hframe =>
    -- Nothing waited before the send, so `settle` leaves the record as it was.
    have hsettle : u.settle o (.settled (.error e), u.channel)
        = { u with results := u.results ++ [(o, .error e)] } := by
      unfold settle
      rw [← hwaiting]
    exact hsettle ▸ .invalid o hframe
  | queued h hframe hroom => exact .accepted o hframe (Channel.open_of_refuses_eq_false h)
  | waiting h hframe hfull => exact .waits o hframe (Channel.open_of_refuses_eq_false h)

/-- A send that waited is accepted only by a channel that is still open, hence `hwriting`. -/
theorem change_resend {o : Outgoing} {frame : String} (hframe : o.frame = .ok frame)
    (hwriting : u.channel.writing = true) :
    u.Change (u.settle o (u.channel.resend frame o.isEvent)) := by
  generalize hsending : u.channel.resend frame o.isEvent = sending
  have hresends := u.channel.resends_resend frame o.isEvent
  rw [hsending] at hresends
  cases hresends with
  | refused h => exact .refused o (Or.inr rfl)
  | queued h hroom => exact .accepted o hframe ⟨hwriting, h⟩
  | waiting h hfull => exact .waits o hframe ⟨hwriting, h⟩

theorem step_take_of_frame {frame : String} {c : Channel}
    (h : u.channel.take = (.frame frame, c)) :
    u.step .take = { u with channel := c, taken := u.taken ++ [frame] } := by
  simp only [step, h]

/-- A reader who gets no frame changes nothing, whether the queue is empty or at its end. -/
theorem step_take_of_no_frame (h : ∀ frame c, u.channel.take ≠ (.frame frame, c)) :
    u.step .take = u := by
  rw [step]
  split
  · next frame c htake => exact absurd htake (h frame c)
  · rfl

/-- Only a reader who has not gone gets a frame, and it is the oldest in the queue. -/
theorem change_take (u : Usage) : u.Change (u.step .take) := by
  by_cases hreceiver : u.channel.receiver = .gone
  · have htake : u.channel.take = (.gone, u.channel) := if_pos hreceiver
    rw [step_take_of_no_frame fun frame c h => nomatch htake.symm.trans h]
    exact .nothing
  cases hqueue : u.channel.queue with
  | nil =>
    rw [step_take_of_no_frame fun frame c => ?_]
    · exact .nothing
    · rw [Channel.take, if_neg hreceiver, hqueue]
      simp only
      split <;> exact fun h => nomatch h
  | cons frame rest =>
    have htake : u.channel.take = (.frame frame, { u.channel with queue := rest }) := by
      rw [Channel.take, if_neg hreceiver, hqueue]
    rw [step_take_of_frame htake]
    exact .taken hreceiver hqueue

/-- Every use is one of the changes listed, as long as sends that wait keep the channel open. -/
theorem change_step (hheld : u.Held) (x : Use) : u.Change (u.step x) := by
  cases x with
  | send o =>
    cases hwaiting : u.waiting with
    | none => exact step_send o hwaiting ▸ change_send o hwaiting
    | some w => rw [step_send_of_waiting o hwaiting]; exact .nothing
  | resend =>
    cases hwaiting : u.waiting with
    | none => rw [step_resend_of_settled hwaiting]; exact .nothing
    | some w =>
      -- Here it matters that nobody closed while the send was waiting.
      obtain ⟨hframe, hwriting⟩ := hheld _ _ hwaiting
      exact step_resend hwaiting ▸ change_resend hframe hwriting
  -- The rest changes one part of the record, whatever the state.
  | giveUp => exact .givenUp
  | close =>
    cases hwaiting : u.waiting with
    | none => exact step_close hwaiting ▸ .closed hwaiting
    | some w => rw [step_close_of_waiting hwaiting]; exact .nothing
  | cancel => exact .cancelled
  | take => exact change_take u
  | dropReceiver => exact .dropped
  | noteLoss => exact .lost

/-! ### Accounts -/

/-- **The accounts of a channel are in order:** the frames that were ever queued are those of the
accepted sends, and the events among these are counted.  A reader who has gone has left nothing in
the queue, and one who has not has left nothing behind. -/
structure Balanced (u : Usage) : Prop where
  held : u.Held
  frames : u.accepted.map Outgoing.frame = u.queued.map .ok
  events : u.channel.sent = u.accepted.countP Outgoing.isEvent
  discarded : u.channel.receiver ≠ .gone → u.discarded = []
  gone : u.channel.receiver = .gone → u.channel.queue = []

/-- Nothing was sent, so all accounts are empty. -/
theorem balanced_start (size : Nat) : (start size).Balanced where
  held := fun _ _ h => nomatch h
  frames := rfl
  events := rfl
  discarded := fun _ => rfl
  gone := fun _ => rfl

theorem acceptedOf_append_ok (results : List (Outgoing × Except StreamError Unit))
    (o : Outgoing) : acceptedOf (results ++ [(o, .ok ())]) = acceptedOf results ++ [o] := by
  unfold acceptedOf
  rw [List.filterMap_append]
  rfl

/-- An error that is reported adds nothing to what was accepted. -/
theorem acceptedOf_append_error (results : List (Outgoing × Except StreamError Unit))
    (o : Outgoing) (e : StreamError) :
    acceptedOf (results ++ [(o, .error e)]) = acceptedOf results := by
  unfold acceptedOf
  rw [List.filterMap_append]
  exact List.append_nil _

theorem countP_singleton (o : Outgoing) : [o].countP Outgoing.isEvent = o.isEvent.toNat := by
  rw [List.countP_singleton]
  cases o.isEvent <;> rfl

/-- A frame of an accepted send goes to the end of the queue, so it is the last of all. -/
theorem queued_push (u : Usage) (frame : String) (isEvent : Bool) :
    u.taken ++ u.discarded ++ (u.channel.push frame isEvent).queue = u.queued ++ [frame] := by
  show u.taken ++ u.discarded ++ (u.channel.queue ++ [frame]) = _
  rw [← List.append_assoc]
  rfl

/-- Balance is kept by everything that a use can do. -/
theorem Change.balanced (h : u.Change v) (hu : u.Balanced) : v.Balanced := by
  obtain ⟨hheld, hframes, hevents, hdiscarded, hgone⟩ := hu
  cases h with
  | nothing => exact ⟨hheld, hframes, hevents, hdiscarded, hgone⟩
  | refused o hc =>
    -- The send is reported and not accepted: queue and counter are as before.
    have haccepted := acceptedOf_append_error u.results o .disconnected
    rcases hc with rfl | rfl
    all_goals
      refine ⟨fun _ _ h => (nomatch h), ?_, ?_, hdiscarded, hgone⟩
      · exact (congrArg (List.map _) haccepted).trans hframes
      · exact hevents.trans (congrArg (List.countP _) haccepted).symm
  | @invalid o e hframe =>
    have haccepted := acceptedOf_append_error u.results o e
    refine ⟨hheld, ?_, ?_, hdiscarded, hgone⟩
    · exact (congrArg (List.map _) haccepted).trans hframes
    · exact hevents.trans (congrArg (List.countP _) haccepted).symm
  | accepted o hframe hopen =>
    -- A reader who takes frames has not gone.
    have hhere : u.channel.receiver ≠ .gone := by rw [hopen.2]; exact Receiver.noConfusion
    have haccepted := acceptedOf_append_ok u.results o
    refine ⟨fun _ _ h => (nomatch h), ?_, ?_, hdiscarded, fun h => absurd h hhere⟩
    · show (acceptedOf _).map Outgoing.frame = (u.taken ++ u.discarded ++ _).map .ok
      rw [haccepted, queued_push, List.map_append, List.map_append,
        List.map_singleton, List.map_singleton, hframe]
      exact congrArg (· ++ _) hframes
    · show u.channel.sent + o.isEvent.toNat = (acceptedOf _).countP Outgoing.isEvent
      rw [haccepted, List.countP_append, hevents, countP_singleton]
      rfl
  | waits o hframe hopen =>
    refine ⟨fun _ _ h => ?_, hframes, hevents, hdiscarded, hgone⟩
    obtain ⟨rfl, rfl⟩ := Prod.mk.inj (Option.some.inj h)
    exact ⟨hframe, hopen.1⟩
  | givenUp => exact ⟨fun _ _ h => (nomatch h), hframes, hevents, hdiscarded, hgone⟩
  | closed hwaiting =>
    refine ⟨fun _ _ h => ?_, hframes, hevents, hdiscarded, hgone⟩
    rw [hwaiting] at h
    cases h
  | cancelled => exact ⟨hheld, hframes, hevents, hdiscarded, hgone⟩
  | lost => exact ⟨hheld, hframes, hevents, hdiscarded, hgone⟩
  | @taken frame rest hreceiver hqueue =>
    refine ⟨hheld, ?_, hevents, hdiscarded, fun h => absurd h hreceiver⟩
    -- What was taken and what is queued are neighbours as long as nothing was left behind.
    have hqueued : u.taken ++ [frame] ++ u.discarded ++ rest = u.queued := by
      unfold queued
      rw [hdiscarded hreceiver, hqueue, List.append_nil, List.append_nil, List.append_assoc]
      rfl
    exact hframes.trans (congrArg (List.map _) hqueued.symm)
  | dropped =>
    -- The queue moves behind what was left, which keeps the order of all that was queued.
    refine ⟨hheld, ?_, hevents, fun h => absurd rfl h, fun _ => rfl⟩
    have hqueued : u.taken ++ (u.discarded ++ u.channel.queue) ++ [] = u.queued := by
      unfold queued
      rw [List.append_nil, List.append_assoc]
    exact hframes.trans (congrArg (List.map _) hqueued.symm)

/-- Induction on the uses: `change_step` says what one of them does, and each change keeps balance.
-/
theorem Balanced.run (h : u.Balanced) (uses : List Use) : (u.run uses).Balanced :=
  List.foldlRecOn uses step (motive := Balanced) h fun _ hv x _ =>
    (change_step hv.held x).balanced hv

/-! ### Refusing for good -/

/-- **A channel that refuses goes on refusing.** -/
theorem Change.refuses (h : u.Change v) (hu : u.channel.refuses = true) :
    v.channel.refuses = true := by
  -- No change takes back one of the four reasons, and the last group touches none of them.
  rw [Channel.refuses_eq_true_iff] at hu ⊢
  cases h with
  | refused o hc => rcases hc with rfl | rfl <;> exact Or.inr (Or.inl rfl)
  | closed => exact Or.inl rfl
  | cancelled => exact Or.inr (Or.inr (Or.inl rfl))
  | lost => exact Or.inr (Or.inl rfl)
  | dropped => exact Or.inr (Or.inr (Or.inr Receiver.noConfusion))
  | nothing | invalid | accepted | waits | givenUp | taken => exact hu

/-- Whatever is done with it, a channel that refuses goes on refusing. -/
theorem Balanced.refuses_run (h : u.Balanced) (hu : u.channel.refuses = true) (uses : List Use) :
    (u.run uses).channel.refuses = true :=
  -- Balance goes along, since `change_step` needs what a waiting send holds.
  (List.foldlRecOn uses step (motive := fun v => v.Balanced ∧ v.channel.refuses = true) ⟨h, hu⟩
    fun _ hv x _ =>
      have hchange := change_step hv.1.held x
      ⟨hchange.balanced hv.1, hchange.refuses hv.2⟩).2

/-- A send into a channel that refuses is told so at once and notes the loss. -/
theorem step_send_of_refuses (o : Outgoing) (h : u.channel.refuses = true)
    (hwaiting : u.waiting = none) :
    u.step (.send o) = { u with
      channel := u.channel.noteLoss, results := u.results ++ [(o, .error .disconnected)] } := by
  have hsend : u.channel.send o = (.settled (.error .disconnected), u.channel.noteLoss) := if_pos h
  rw [step_send o hwaiting, hsend, settle, ← hwaiting]

/-- A send that finds room is accepted at once. -/
theorem step_send_of_room {o : Outgoing} {frame : String} (hframe : o.frame = .ok frame)
    (h : u.channel.refuses = false) (hroom : u.channel.queue.length < u.channel.room)
    (hwaiting : u.waiting = none) :
    u.step (.send o) = { u with
      channel := u.channel.push frame o.isEvent, results := u.results ++ [(o, .ok ())] } := by
  have hsend : u.channel.send o = (.settled (.ok ()), u.channel.push frame o.isEvent) := by
    unfold Channel.send
    rw [h, hframe]
    exact if_pos hroom
  rw [step_send o hwaiting, hsend, settle, ← hwaiting]

/-! ### Closing -/

/-- A channel that is closed takes in nothing more. -/
theorem Change.of_closed (h : u.Change v) (hu : u.channel.writing = false) :
    v.channel.writing = false ∧ v.accepted = u.accepted ∧ v.channel.sent = u.channel.sent ∧
      (u.channel.queue = [] → v.channel.queue = []) := by
  have hshut : ¬ u.channel.writing = true := fun hopen => Bool.false_ne_true (hu.symm.trans hopen)
  cases h with
  | refused o hc =>
    have haccepted := acceptedOf_append_error u.results o .disconnected
    rcases hc with rfl | rfl
    · exact ⟨hu, haccepted, rfl, id⟩
    · exact ⟨rfl, haccepted, rfl, id⟩
  | @invalid o e hframe => exact ⟨hu, acceptedOf_append_error u.results o e, rfl, id⟩
  | accepted o hframe hopen => exact absurd hopen.1 hshut
  | waits o hframe hopen => exact absurd hopen.1 hshut
  | closed hwaiting => exact ⟨rfl, rfl, rfl, id⟩
  | taken hreceiver hqueue => exact ⟨hu, rfl, rfl, fun hnil => nomatch hqueue.symm.trans hnil⟩
  | dropped => exact ⟨hu, rfl, rfl, fun _ => rfl⟩
  | nothing | givenUp | cancelled | lost => exact ⟨hu, rfl, rfl, id⟩

/-- A lost client stays lost, and a request that was cancelled stays so. -/
theorem Change.lost_cancelled (h : u.Change v) :
    (u.channel.lost = true → v.channel.lost = true) ∧
      (u.channel.cancelled = true → v.channel.cancelled = true) := by
  cases h with
  | refused o hc => rcases hc with rfl | rfl <;> exact ⟨fun _ => rfl, id⟩
  | cancelled => exact ⟨id, fun _ => rfl⟩
  | lost => exact ⟨fun _ => rfl, id⟩
  | nothing | invalid | accepted | waits | givenUp | closed | taken | dropped => exact ⟨id, id⟩

/-! ### Senders -/

/-- To record how a send went touches neither the reader's side nor the channel that it left. -/
theorem settle_keeps (u : Usage) (o : Outgoing) (sending : Channel.Sending × Channel) :
    (u.settle o sending).taken = u.taken ∧ (u.settle o sending).discarded = u.discarded ∧
      (u.settle o sending).channel = sending.2 := by
  obtain ⟨sending, c⟩ := sending
  cases sending <;> exact ⟨rfl, rfl, rfl⟩

/-- What a sender does leaves the reader alone. -/
theorem step_keeps_of_isBySender {x : Use} (hx : x.isBySender = true) (u : Usage) :
    (u.step x).taken = u.taken ∧ (u.step x).discarded = u.discarded ∧
      (u.step x).channel.receiver = u.channel.receiver := by
  cases x with
  | send o =>
    cases hwaiting : u.waiting with
    | some w => rw [step_send_of_waiting o hwaiting]; exact ⟨rfl, rfl, rfl⟩
    | none =>
      obtain ⟨htaken, hdiscarded, hchannel⟩ := u.settle_keeps o (u.channel.send o)
      rw [step_send o hwaiting, hchannel]
      exact ⟨htaken, hdiscarded, u.channel.receiver_send o⟩
  | resend =>
    cases hwaiting : u.waiting with
    | none => rw [step_resend_of_settled hwaiting]; exact ⟨rfl, rfl, rfl⟩
    | some w =>
      obtain ⟨htaken, hdiscarded, hchannel⟩ :=
        u.settle_keeps w.1 (u.channel.resend w.2 w.1.isEvent)
      rw [step_resend hwaiting, hchannel]
      exact ⟨htaken, hdiscarded, u.channel.receiver_resend w.2 w.1.isEvent⟩
  | close =>
    cases hwaiting : u.waiting with
    | none => rw [step_close hwaiting]; exact ⟨rfl, rfl, rfl⟩
    | some w => rw [step_close_of_waiting hwaiting]; exact ⟨rfl, rfl, rfl⟩
  | giveUp => exact ⟨rfl, rfl, rfl⟩
  | cancel => exact ⟨rfl, rfl, rfl⟩
  | take => cases hx
  | dropReceiver => cases hx
  | noteLoss => cases hx

/-! ### Results -/

theorem results_ne_append (u : Usage) (r : Outgoing × Except StreamError Unit) :
    u.results ≠ u.results ++ [r] :=
  fun h => List.cons_ne_nil _ _ (List.self_eq_append_right.mp h)

/-- A use that ends a send with an error queues nothing; unless the error is that of a lost client,
it does nothing at all. -/
theorem Change.of_error {o : Outgoing} {e : StreamError} (h : u.Change v)
    (hresults : v.results = u.results ++ [(o, .error e)]) :
    v.queued = u.queued ∧
      (e = .disconnected ∧ v.channel.lost = true
        ∨ e ≠ .disconnected ∧ v = { u with results := u.results ++ [(o, .error e)] }) := by
  cases h with
  | refused p hc =>
    obtain ⟨⟩ := List.append_cancel_left hresults
    rcases hc with rfl | rfl <;> exact ⟨rfl, Or.inl ⟨rfl, rfl⟩⟩
  | invalid p hframe =>
    obtain ⟨⟩ := List.append_cancel_left hresults
    exact ⟨rfl, Or.inr ⟨fun he => Outgoing.frame_ne_disconnected _ (he ▸ hframe), rfl⟩⟩
  | accepted p hframe hopen => cases List.append_cancel_left hresults
  | nothing | waits | givenUp | closed | cancelled | lost | taken | dropped =>
    exact absurd hresults (u.results_ne_append _)

/-- **What ends a channel for its senders:** a send was refused, the sending side was closed, the
request was cancelled, the reader went, or a lost client was noted. -/
inductive EndsBy (u : Usage) : Use → Prop
  | refused {x : Use} (o : Outgoing)
      (h : (u.step x).results = u.results ++ [(o, .error .disconnected)]) : EndsBy u x
  | closed (h : u.waiting = none) : EndsBy u .close
  | cancelled : EndsBy u .cancel
  | dropped : EndsBy u .dropReceiver
  | lost : EndsBy u .noteLoss

/-- Each of these ends leaves one of the four reasons to refuse behind. -/
theorem EndsBy.refuses {x : Use} (h : u.EndsBy x) (hu : u.Held) :
    (u.step x).channel.refuses = true := by
  rw [Channel.refuses_eq_true_iff]
  cases h with
  | refused o hresults =>
    rcases ((change_step hu x).of_error hresults).2 with ⟨-, hlost⟩ | ⟨hne, -⟩
    · exact Or.inr (Or.inl hlost)
    · exact absurd rfl hne
  | closed hwaiting => exact Or.inl (by rw [step_close hwaiting]; rfl)
  | cancelled => exact Or.inr (Or.inr (Or.inl rfl))
  | dropped => exact Or.inr (Or.inr (Or.inr Receiver.noConfusion))
  | lost => exact Or.inr (Or.inl rfl)

/-- **The accounts of a channel.** At any time the frames that were ever queued are those of the
accepted sends, in order, and the events among these are counted.  A use that ends a send with an
error queues nothing, and unless the error is that of a lost client it leaves all as it was.  What
ends the channel once ends it for good: no later send is accepted.  Until then a send that has a
frame and finds room is. -/
theorem accounts (size : Nat) (uses : List Use) :
    let u := (start size).run uses
    u.accepted.map Outgoing.frame = u.queued.map .ok
    ∧ u.channel.sent = u.accepted.countP Outgoing.isEvent
    ∧ (∀ x o e, (u.step x).results = u.results ++ [(o, .error e)] →
        (u.step x).queued = u.queued
        ∧ (e ≠ .disconnected → u.step x = { u with results := u.results ++ [(o, .error e)] }))
    ∧ (∀ x more, u.EndsBy x →
        let w := (u.step x).run more
        w.waiting = none → ∀ o, w.step (.send o) = { w with
          channel := w.channel.noteLoss, results := w.results ++ [(o, .error .disconnected)] })
    ∧ (∀ o frame, u.waiting = none → u.channel.refuses = false → o.frame = .ok frame →
        u.channel.queue.length < u.channel.room → u.step (.send o) = { u with
          channel := u.channel.push frame o.isEvent, results := u.results ++ [(o, .ok ())] }) := by
  intro u
  have hu : u.Balanced := (balanced_start size).run uses
  refine ⟨hu.frames, hu.events, ?_, ?_, ?_⟩
  · intro x o e hresults
    obtain ⟨hqueued, ⟨rfl, -⟩ | ⟨-, hsame⟩⟩ := (change_step hu.held x).of_error hresults
    · exact ⟨hqueued, absurd rfl⟩
    · exact ⟨hqueued, fun _ => hsame⟩
  -- The channel refuses after `x`, and whatever follows keeps that.
  · intro x more hends w hwaiting o
    have hstep : (u.step x).Balanced := (change_step hu.held x).balanced hu
    exact step_send_of_refuses o (hstep.refuses_run (hends.refuses hu.held) more) hwaiting
  · intro o frame hwaiting hopen hframe hroom
    exact step_send_of_room hframe hopen hroom hwaiting

theorem accounts_closed :
    (((start 2).run [.send (.comment "one"), .close, .take]).step (.send (.comment "two"))).results
      = [(.comment "one", .ok ()), (.comment "two", .error .disconnected)] := by
  obtain ⟨-, -, -, hends, -⟩ := accounts 2 [.send (.comment "one")]
  exact congrArg results (hends .close [.take] (.closed rfl) rfl (.comment "two"))

/-! ### Reading -/

/-- **What was sent is what is read.** Whatever was done with a channel, the text of all its frames
is read as one frame for each accepted send, in order. -/
theorem reads_accepted (size : Nat) (uses : List Use) :
    List.Forall₂ Outgoing.ReadsAs ((start size).run uses).accepted
      (Frame.parseAll (String.join ((start size).run uses).queued)) := by
  have hu : ((start size).run uses).Balanced := (balanced_start size).run uses
  -- Balance turns the reading of the queue into the reading of each accepted send on its own.
  rw [Frame.parseAll_join hu.frames, List.forall₂_map_right_iff, List.forall₂_same]
  intro o ho
  have hframe : o.frame ∈ ((start size).run uses).queued.map .ok :=
    hu.frames ▸ List.mem_map_of_mem ho
  obtain ⟨text, -, htext⟩ := List.mem_map.mp hframe
  exact Outgoing.readsAs_reading htext.symm

end Usage

end Callpoint
