import Callpoint.Proofs.Happened
import Callpoint.Proofs.Stream.Failures

/-!
# What a stream says of itself

A stream that says it is disconnected has noted a refusal, a cancellation or a lost client, and then
it accepts no send any more.  It also refuses sends once it was closed or nobody takes its frames,
and these it does not note: it says so only when a send has been refused.

What a stream has noted is what happened in its uses (`isDisconnected_run_iff`), and so is whether a
further send would be refused (`wouldRefuse_run_iff`).  So what it says is true exactly if whatever
ended it was noted (`isDisconnected_tells_iff`).
-/

namespace Callpoint.Usage

variable {u : Usage} {o : Outgoing} {frame : String} {size : Nat} {uses : List Use} {x : Use}

/-! ### Refusals to come -/

/-- **A send would be refused:** whatever is done until its turn comes, it then ends with the error
of a lost client, and no frame is queued. -/
def WouldRefuse (u : Usage) (o : Outgoing) : Prop :=
  ∀ more, (u.run more).waiting = none →
    ((u.run more).step (.send o)).results = (u.run more).results ++ [(o, .error .disconnected)] ∧
      ((u.run more).step (.send o)).queued = (u.run more).queued

/-- A send that has a frame is refused only by a channel that refuses. -/
theorem refuses_of_wouldRefuse (hframe : o.frame = .ok frame) (h : u.WouldRefuse o) :
    u.channel.refuses = true := by
  -- Its turn comes at once if the send that waits is given up.
  obtain ⟨hresults, -⟩ := h [.giveUp] rfl
  refine (Bool.not_eq_false _).mp fun hopen => ?_
  have hsends := u.channel.sends_send o
  generalize hsending : u.channel.send o = sending at hsends
  have hstep : (u.run [.giveUp]).step (.send o) = (u.step .giveUp).settle o sending := by
    rw [← hsending]
    exact step_send o rfl
  rw [hstep] at hresults
  cases hsends with
  | refused hrefuses => exact Bool.false_ne_true (hopen.symm.trans hrefuses)
  | invalid _ herror => exact nomatch hframe.symm.trans herror
  | queued => exact nomatch List.append_cancel_left hresults
  | waiting => exact results_ne_append _ _ hresults

/-- **A further send would be refused** exactly if the channel refuses. -/
theorem Balanced.wouldRefuse_iff (h : u.Balanced) (hframe : o.frame = .ok frame) :
    u.WouldRefuse o ↔ u.channel.refuses = true := by
  refine ⟨refuses_of_wouldRefuse hframe, fun hrefuses more hwaiting => ?_⟩
  rw [step_send_of_refuses o (h.refuses_run hrefuses more) hwaiting]
  exact ⟨rfl, rfl⟩

/-! ### Ends, and ends that are noted -/

/-- **What a stream notes of its end:** a send that was refused, a request that was cancelled, a
client that was lost. -/
inductive Notes (u : Usage) : Use → Prop
  | refused {x : Use} (o : Outgoing)
      (h : (u.step x).results = u.results ++ [(o, .error .disconnected)]) : Notes u x
  | cancelled : Notes u .cancel
  | lost : Notes u .noteLoss

/-- **What ends a stream without a note:** it is closed, or its receiver is dropped. -/
inductive EndsQuietly (u : Usage) : Use → Prop
  | closed (h : u.waiting = none) : EndsQuietly u .close
  | dropped : EndsQuietly u .dropReceiver

/-- What ends a channel for its senders is noted, or it is not. -/
theorem endsBy_iff : u.EndsBy x ↔ u.Notes x ∨ u.EndsQuietly x := by
  constructor
  · intro h
    cases h with
    | refused o h => exact Or.inl (.refused o h)
    | closed h => exact Or.inr (.closed h)
    | cancelled => exact Or.inl .cancelled
    | dropped => exact Or.inr .dropped
    | lost => exact Or.inl .lost
  · rintro (h | h)
    · cases h with
      | refused o h => exact .refused o h
      | cancelled => exact .cancelled
      | lost => exact .lost
    · cases h with
      | closed h => exact .closed h
      | dropped => exact .dropped

/-- Two channels are alike to their senders, but for what is queued. -/
structure Alike (c d : Channel) : Prop where
  writing : c.writing = d.writing
  receiver : c.receiver = d.receiver
  lost : c.lost = d.lost
  cancelled : c.cancelled = d.cancelled

theorem Alike.refl (c : Channel) : Alike c c := ⟨rfl, rfl, rfl, rfl⟩

theorem Alike.of_eq {v : Usage} (h : v = u) : Alike v.channel u.channel := h ▸ .refl _

/-- A send that is not refused changes the queue and the counter at most. -/
theorem alike_step_send (o : Outgoing) :
    u.EndsBy (.send o) ∨ Alike (u.step (.send o)).channel u.channel := by
  cases hwaiting : u.waiting with
  | some w => exact Or.inr (.of_eq (step_send_of_waiting o hwaiting))
  | none =>
    have hstep := step_send o hwaiting
    have hsends := u.channel.sends_send o
    generalize hsending : u.channel.send o = sending at hstep hsends
    cases hsends with
    | refused => exact Or.inl (.refused o (congrArg results hstep))
    | invalid | queued | waiting => exact Or.inr (hstep ▸ ⟨rfl, rfl, rfl, rfl⟩)

theorem alike_step_resend : u.EndsBy .resend ∨ Alike (u.step .resend).channel u.channel := by
  cases hwaiting : u.waiting with
  | none => exact Or.inr (.of_eq (step_resend_of_settled hwaiting))
  | some w =>
    have hstep := step_resend hwaiting
    have hresends := u.channel.resends_resend w.2 w.1.isEvent
    generalize hsending : u.channel.resend w.2 w.1.isEvent = sending at hstep hresends
    cases hresends with
    | refused => exact Or.inl (.refused w.1 (congrArg results hstep))
    | queued | waiting => exact Or.inr (hstep ▸ ⟨rfl, rfl, rfl, rfl⟩)

/-- To take a frame is no matter of the senders. -/
theorem alike_step_take (u : Usage) : Alike (u.step .take).channel u.channel := by
  rw [step]
  split
  · next frame c htake =>
    show Alike c u.channel
    have hc : c = u.channel.take.2 := by rw [htake]
    rw [hc, Channel.take]
    split
    · exact .refl _
    · split <;> exact ⟨rfl, rfl, rfl, rfl⟩
  · exact .refl _

/-- **A use ends a channel, or it leaves it as it was** but for the queue. -/
theorem endsBy_or_alike (u : Usage) (x : Use) :
    u.EndsBy x ∨ Alike (u.step x).channel u.channel := by
  cases x with
  | send o => exact alike_step_send o
  | resend => exact alike_step_resend
  | giveUp => exact Or.inr (.refl _)
  | close =>
    cases hwaiting : u.waiting with
    | none => exact Or.inl (.closed hwaiting)
    | some w => exact Or.inr (.of_eq (step_close_of_waiting hwaiting))
  | cancel => exact Or.inl .cancelled
  | take => exact Or.inr u.alike_step_take
  | dropReceiver => exact Or.inl .dropped
  | noteLoss => exact Or.inl .lost

theorem Alike.refuses_eq {c d : Channel} (h : Alike c d) : c.refuses = d.refuses := by
  unfold Channel.refuses Channel.isDisconnected
  rw [h.writing, h.receiver, h.lost, h.cancelled]

theorem Alike.isDisconnected_eq {c d : Channel} (h : Alike c d) :
    c.isDisconnected = d.isDisconnected := by
  unfold Channel.isDisconnected
  rw [h.lost, h.cancelled]

/-- A channel comes to refuse by what ends it and by nothing else. -/
theorem refuses_step (hu : u.Balanced) (x : Use) :
    (u.step x).channel.refuses = true ↔ u.channel.refuses = true ∨ u.EndsBy x := by
  constructor
  · intro h
    -- A use that does not end the channel leaves its answer as it was.
    rcases u.endsBy_or_alike x with hends | halike
    · exact Or.inr hends
    · exact Or.inl (halike.refuses_eq.symm.trans h)
  · rintro (h | hends)
    · exact (change_step hu.held x).refuses h
    · exact hends.refuses hu.held

theorem isDisconnected_eq_true_iff (c : Channel) :
    c.isDisconnected = true ↔ c.lost = true ∨ c.cancelled = true := by
  unfold Channel.isDisconnected
  rw [Bool.or_eq_true]

/-- What a stream tells of itself changes by what it notes and by nothing else. -/
theorem isDisconnected_step (hu : u.Balanced) (x : Use) :
    (u.step x).channel.isDisconnected = true ↔ u.channel.isDisconnected = true ∨ u.Notes x := by
  have hchange := change_step hu.held x
  constructor
  · intro h
    rcases u.endsBy_or_alike x with hends | halike
    · rcases endsBy_iff.mp hends with hnotes | hquiet
      · exact Or.inr hnotes
      -- A close and a dropped receiver leave both marks as they were.
      · cases hquiet with
        | closed hwaiting =>
          rw [step_close hwaiting] at h
          exact Or.inl h
        | dropped => exact Or.inl h
    · exact Or.inl (halike.isDisconnected_eq.symm.trans h)
  · rw [isDisconnected_eq_true_iff, isDisconnected_eq_true_iff]
    rintro ((hlost | hcancelled) | hnotes)
    · exact Or.inl (hchange.lost_cancelled.1 hlost)
    · exact Or.inr (hchange.lost_cancelled.2 hcancelled)
    · cases hnotes with
      | refused o hresults =>
        rcases (hchange.of_error hresults).2 with ⟨-, hlost⟩ | ⟨hne, -⟩
        · exact Or.inl hlost
        · exact absurd rfl hne
      | cancelled => exact Or.inr rfl
      | lost => exact Or.inl rfl

/-! ### Runs -/

/-- A channel refuses exactly if something has ended it. -/
theorem refuses_run_iff (size : Nat) (uses : List Use) :
    ((start size).run uses).channel.refuses = true ↔
      Happened step (start size) EndsBy uses :=
  happened_iff (P := fun u : Usage => u.channel.refuses = true) (I := Balanced)
    (fun _ x h => (change_step h.held x).balanced h) (fun _ x h => refuses_step h x)
    (balanced_start size) Bool.false_ne_true uses

/-- **A stream says that it is disconnected** exactly if it has noted so. -/
theorem isDisconnected_run_iff (size : Nat) (uses : List Use) :
    ((start size).run uses).channel.isDisconnected = true ↔
      Happened step (start size) Notes uses :=
  happened_iff (P := fun u : Usage => u.channel.isDisconnected = true) (I := Balanced)
    (fun _ x h => (change_step h.held x).balanced h) (fun _ x h => isDisconnected_step h x)
    (balanced_start size) Bool.false_ne_true uses

/-- **A further send would be refused** exactly if the stream has noted an end or ended quietly. -/
theorem wouldRefuse_run_iff (size : Nat) (uses : List Use) (hframe : o.frame = .ok frame) :
    ((start size).run uses).WouldRefuse o ↔
      Happened step (start size) Notes uses ∨ Happened step (start size) EndsQuietly uses := by
  have hends : EndsBy = fun u x => u.Notes x ∨ u.EndsQuietly x :=
    funext fun u => funext fun x => propext endsBy_iff
  rw [((balanced_start size).run uses).wouldRefuse_iff hframe, refuses_run_iff, hends, happened_or]

/-- **When a stream tells the truth.** Whatever was done with it, a stream that says it is
disconnected refuses every further send of an event.  It says so whenever it does exactly if a close
or a dropped receiver did not go unnoted: if there was one, then a send was refused as well, the
request was cancelled, or the client was noted to be lost. -/
theorem isDisconnected_tells_iff (size : Nat) (uses : List Use) (v : Json) :
    let u := (start size).run uses
    let o := Outgoing.value none (.ok v)
    (u.channel.isDisconnected = true → u.WouldRefuse o)
    ∧ ((u.channel.isDisconnected = true ↔ u.WouldRefuse o) ↔
      (Happened step (start size) EndsQuietly uses → Happened step (start size) Notes uses)) := by
  intro u o
  have hframe : o.frame = .ok (ServerEvent.ofJson none v).text := rfl
  rw [isDisconnected_run_iff, wouldRefuse_run_iff size uses hframe]
  refine ⟨Or.inl, fun h hquiet => h.mpr (Or.inr hquiet), fun h => ⟨Or.inl, fun hends => ?_⟩⟩
  exact hends.elim id h

/-- To drop the body of a stream that has not ended is to drop its receiver and to note that. -/
theorem isDisconnected_tells_iff_left :
    ((start 2).run [.send (.comment "one"), .dropReceiver, .noteLoss, .cancel]).WouldRefuse
      (.value none (.ok (.nat 1))) := by
  obtain ⟨htells, -⟩ := isDisconnected_tells_iff 2
    [.send (.comment "one"), .dropReceiver, .noteLoss, .cancel] (.nat 1)
  exact htells rfl

/-- **A stream that was closed does not say so,** although nothing more can be written, and neither
does one whose receiver was dropped. -/
theorem closed_without_note :
    ¬ (((start 8).run [.close]).channel.isDisconnected = true ↔
        ((start 8).run [.close]).WouldRefuse (.value none (.ok (.nat 1))))
    ∧ ¬ (((start 8).run [.dropReceiver]).channel.isDisconnected = true ↔
        ((start 8).run [.dropReceiver]).WouldRefuse (.value none (.ok (.nat 1)))) := by
  have hframe : (Outgoing.value none (.ok (.nat 1))).frame
      = .ok (ServerEvent.ofJson none (.nat 1)).text := rfl
  constructor
  · intro h
    exact absurd (h.mpr ((((balanced_start 8).run _).wouldRefuse_iff hframe).mpr rfl)) (by decide)
  · intro h
    exact absurd (h.mpr ((((balanced_start 8).run _).wouldRefuse_iff hframe).mpr rfl)) (by decide)

end Callpoint.Usage
