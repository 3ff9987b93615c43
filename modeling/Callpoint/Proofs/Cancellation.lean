import Callpoint.Cancellation
import Callpoint.Proofs.Happened

/-!
# What those who wait are told

A trigger leaves two traces: the flag, which every handle shows and every waiter looks at when it is
polled first, and a message to those who have subscribed by then.  `Waiter.Informed` says that the
two never contradict each other: whatever a waiter has come to, no trigger was missed and none is
announced that did not happen.

That somebody triggered the signal and that a waiter was told are said of the steps that were made
(`Triggered`, `Told`).  A waiter who has not been told yet is told at a poll exactly if somebody
triggered before, in whatever order handles were made and dropped and waiters came
(`waiters_learn_of_trigger`).
-/

namespace Callpoint

namespace Waiter

variable {w : Waiter} {triggered alive : Bool}

/-- **A waiter is informed** of a signal: it has messages only of a trigger, and if it looked at the
flag before a trigger came, it has one.  It gave up only if nobody can trigger any more. -/
structure Informed (w : Waiter) (triggered alive : Bool) : Prop where
  announced : 0 < w.messages → triggered = true
  noticed : w.stage = .listening → triggered = true → 0 < w.messages
  abandoned : w.stage = .abandoned → triggered = false ∧ alive = false
  told : w.stage = .finished → triggered = true

/-- A waiter that has not looked yet owes nothing to anybody. -/
theorem informed_fresh (triggered alive : Bool) : ({} : Waiter).Informed triggered alive where
  announced h := absurd h (Nat.lt_irrefl 0)
  noticed h := nomatch h
  abandoned h := nomatch h
  told h := nomatch h

/-- A waiter that has seen the flag unset is informed while it is. -/
theorem informed_listening (alive : Bool) : (Waiter.mk .listening 0).Informed false alive where
  announced h := absurd h (Nat.lt_irrefl 0)
  noticed _ h := nomatch h
  abandoned h := nomatch h
  told h := nomatch h

/-- A waiter may give up when nobody is left who could trigger. -/
theorem informed_abandoned : (Waiter.mk .abandoned 0).Informed false false where
  announced h := absurd h (Nat.lt_irrefl 0)
  noticed h := nomatch h
  abandoned _ := ⟨rfl, rfl⟩
  told h := nomatch h

theorem informed_finished (messages : Nat) (alive : Bool) :
    (Waiter.mk .finished messages).Informed true alive where
  announced _ := rfl
  noticed h := nomatch h
  abandoned h := nomatch h
  told _ := rfl

/-- A waiter stays informed when handles are dropped. -/
theorem Informed.mono (h : w.Informed triggered alive) {alive' : Bool}
    (halive : alive' = true → alive = true) : w.Informed triggered alive' where
  announced := h.announced
  noticed := h.noticed
  abandoned hstage := by
    obtain ⟨hnot, hgone⟩ := h.abandoned hstage
    exact ⟨hnot, (Bool.not_eq_true _).mp fun h => Bool.false_ne_true (hgone.symm.trans (halive h))⟩
  told := h.told

/-- A trigger comes from somebody who holds a handle, so nobody has given up by then. -/
theorem Informed.notified (h : w.Informed triggered true) :
    ({ w with messages := w.messages + 1 } : Waiter).Informed true true where
  announced _ := rfl
  noticed _ _ := Nat.succ_pos _
  abandoned hstage := nomatch (h.abandoned hstage).2
  told _ := rfl

end Waiter

namespace Cancellation

open Waiter

variable {c : Cancellation} {w : Waiter} {triggered alive : Bool}

/-! ### Polls -/

/-- While nobody has triggered, an informed waiter goes on waiting. -/
theorem pollWaiter_of_untriggered (h : w.Informed false alive) :
    (pollWaiter false alive w).2 = .pending ∧
      (pollWaiter false alive w).1.Informed false alive := by
  have hsilent : ¬ 0 < w.messages := fun hmessage => Bool.false_ne_true (h.announced hmessage)
  unfold pollWaiter
  rw [if_neg hsilent]
  cases hstage : w.stage with
  | finished => exact absurd (h.told hstage) Bool.false_ne_true
  | abandoned => exact ⟨rfl, h⟩
  | fresh | listening =>
    cases alive with
    | true => exact ⟨rfl, informed_listening true⟩
    | false => exact ⟨rfl, informed_abandoned⟩

/-- Once somebody has triggered, an informed waiter is told, if it was not told before. -/
theorem pollWaiter_of_triggered (h : w.Informed true alive) (hstage : w.stage ≠ .finished) :
    (pollWaiter true alive w).2 = .ready ∧ (pollWaiter true alive w).1.Informed true alive := by
  unfold pollWaiter
  cases hwaiting : w.stage with
  | finished => exact absurd hwaiting hstage
  | abandoned => exact absurd (h.abandoned hwaiting).1.symm Bool.false_ne_true
  | fresh => exact ⟨rfl, informed_finished _ _⟩
  | listening =>
    -- It has seen the flag unset, so it must rely on the message.
    rw [if_pos (h.noticed hwaiting rfl)]
    exact ⟨rfl, informed_finished _ _⟩

/-- A waiter that was told has nothing more to learn. -/
theorem pollWaiter_of_finished (hstage : w.stage = .finished) :
    pollWaiter triggered alive w = (w, .done) := by
  unfold pollWaiter
  rw [hstage]

/-- A poll keeps a waiter informed. -/
theorem informed_pollWaiter (h : w.Informed triggered alive) :
    (pollWaiter triggered alive w).1.Informed triggered alive := by
  by_cases hstage : w.stage = .finished
  · rw [pollWaiter_of_finished hstage]
    exact h
  · cases triggered with
    | true => exact (pollWaiter_of_triggered h hstage).2
    | false => exact (pollWaiter_of_untriggered h).2

/-- **A poll finishes a waiter by telling it.** -/
theorem pollWaiter_stage (triggered alive : Bool) (w : Waiter) :
    (pollWaiter triggered alive w).1.stage = .finished ↔
      w.stage = .finished ∨ (pollWaiter triggered alive w).2 = .ready := by
  unfold pollWaiter
  cases hstage : w.stage <;> cases triggered <;> cases alive <;> by_cases hm : 0 < w.messages <;>
    simp [hstage, hm]

theorem poll_of_getElem? {waiter : Nat} (h : c.waiters[waiter]? = some w) :
    c.poll waiter = ({ c with
      waiters := c.waiters.set waiter (pollWaiter c.triggered c.alive w).1 },
      (pollWaiter c.triggered c.alive w).2) := by
  simp only [poll, h]

theorem poll_of_none {waiter : Nat} (h : c.waiters[waiter]? = none) :
    c.poll waiter = (c, .done) := by
  simp only [poll, h]

/-! ### Handles -/

/-- A signal is alive as long as somebody holds a handle. -/
theorem alive_iff (c : Cancellation) : c.alive = true ↔ ∃ handle, c.holds handle = true := by
  simp [alive, holds, List.any_eq_true, List.mem_iff_getElem?]

/-- A poll changes neither the flag nor the handles, and no waiter comes or goes. -/
theorem poll_keeps (c : Cancellation) (waiter : Nat) :
    (c.poll waiter).1.triggered = c.triggered ∧ (c.poll waiter).1.handles = c.handles ∧
      (c.poll waiter).1.waiters.length = c.waiters.length := by
  cases hw : c.waiters[waiter]? with
  | none => rw [poll_of_none hw]; exact ⟨rfl, rfl, rfl⟩
  | some w => rw [poll_of_getElem? hw]; exact ⟨rfl, rfl, List.length_set⟩

/-- Handles are made of handles only. -/
theorem alive_step {x : Step} (h : (c.step x).alive = true) : c.alive = true := by
  cases x with
  | clone handle | trigger handle | wait handle =>
    simp only [step] at h
    split at h
    · next hheld => exact c.alive_iff.mpr ⟨handle, hheld⟩
    · exact h
  -- A handle that is still held was not the one that was dropped.
  | drop handle =>
    obtain ⟨other, hother⟩ := (alive_iff _).mp h
    refine c.alive_iff.mpr ⟨other, ?_⟩
    simp only [step, drop, holds, List.getElem?_set, decide_eq_true_eq] at hother ⊢
    split at hother
    · split at hother <;> cases hother
    · exact hother
  | poll waiter =>
    unfold alive at h ⊢
    rwa [step, (c.poll_keeps waiter).2.1] at h

/-! ### Waiters -/

/-- All waiters of a signal are informed. -/
def Informed (c : Cancellation) : Prop := ∀ w ∈ c.waiters, w.Informed c.triggered c.alive

/-- **Every step keeps the waiters informed.** -/
theorem Informed.step (h : c.Informed) (x : Step) : (c.step x).Informed := by
  have halive : (c.step x).alive = true → c.alive = true := alive_step
  cases x with
  | clone handle =>
    simp only [Cancellation.step] at halive ⊢
    split at halive
    · next hheld =>
      rw [if_pos hheld]
      exact fun w hw => (h w hw).mono halive
    · next hheld =>
      rw [if_neg hheld]
      exact h
  | trigger handle =>
    simp only [Cancellation.step]
    split
    · next hheld =>
      -- Whoever triggers holds a handle, so nobody has given up on the signal.
      have hhere : c.alive = true := c.alive_iff.mpr ⟨handle, hheld⟩
      unfold trigger
      split
      · exact h
      · intro w hw
        obtain ⟨v, hv, rfl⟩ := List.mem_map.mp hw
        show Waiter.Informed _ true c.alive
        have hbefore := h v hv
        rw [hhere] at hbefore ⊢
        exact hbefore.notified
    · exact h
  | wait handle =>
    simp only [Cancellation.step]
    split
    · intro w hw
      rcases List.mem_append.mp hw with hw | hw
      · exact h w hw
      · obtain rfl := List.mem_singleton.mp hw
        exact informed_fresh _ _
    · exact h
  | drop handle => exact fun w hw => (h w hw).mono halive
  | poll waiter =>
    simp only [Cancellation.step]
    cases hw : c.waiters[waiter]? with
    | none => rw [poll_of_none hw]; exact h
    | some w =>
      rw [poll_of_getElem? hw]
      intro v hv
      -- The others are as they were, and the one that was polled stays informed.
      rcases List.mem_or_eq_of_mem_set hv with hv | rfl
      · exact h v hv
      · exact informed_pollWaiter (h w (List.mem_of_getElem? hw))

/-- The waiter of that number was told. -/
def Finished (c : Cancellation) (waiter : Nat) : Prop :=
  (c.waiters.map Waiter.stage)[waiter]? = some .finished

/-- **A waiter is told by a poll of its own** that finds it ready, and by nothing else. -/
theorem finished_step (c : Cancellation) (x : Step) (waiter : Nat) :
    (c.step x).Finished waiter ↔
      c.Finished waiter ∨ x = .poll waiter ∧ (c.poll waiter).2 = .ready := by
  -- Steps that leave all stages alone tell nobody.
  have hsame : (c.step x).waiters.map Waiter.stage = c.waiters.map Waiter.stage → x ≠ .poll waiter →
      ((c.step x).Finished waiter ↔
        c.Finished waiter ∨ x = .poll waiter ∧ (c.poll waiter).2 = .ready) := by
    intro hstages hx
    unfold Finished
    rw [hstages, iff_self_or]
    exact fun h => absurd h.1 hx
  cases x with
  | clone handle =>
    refine hsame ?_ Step.noConfusion
    simp only [step]
    split <;> rfl
  | trigger handle =>
    refine hsame ?_ Step.noConfusion
    simp only [step, trigger]
    split
    · split
      · rfl
      · exact List.map_map
    · rfl
  | wait handle =>
    simp only [step]
    split
    · -- The new waiter is not told, and there was none of its number.
      simp only [Finished, wait, List.map_append, List.getElem?_append, reduceCtorEq, false_and,
        or_false]
      split
      · rfl
      · next hlen =>
        rw [List.getElem?_eq_none (Nat.not_lt.mp hlen)]
        refine iff_of_false (fun h => ?_) (fun h => nomatch h)
        cases List.mem_singleton.mp (List.mem_of_getElem? h)
    · simp only [reduceCtorEq, false_and, or_false]
  | drop handle => exact hsame rfl Step.noConfusion
  | poll other =>
    simp only [step, Step.poll.injEq]
    cases hw : c.waiters[other]? with
    | none =>
      rw [poll_of_none hw, iff_self_or]
      rintro ⟨rfl, hready⟩
      rw [poll_of_none hw] at hready
      cases hready
    | some w =>
      have hlt : other < (c.waiters.map Waiter.stage).length := by
        rw [List.length_map]
        exact (List.getElem?_eq_some_iff.mp hw).1
      by_cases hother : other = waiter
      · subst hother
        simp only [Finished, poll_of_getElem? hw, List.map_set, List.getElem?_set_self hlt,
          List.getElem?_map, hw, Option.map_some, Option.some.injEq, true_and]
        exact pollWaiter_stage _ _ _
      · simp only [Finished, poll_of_getElem? hw, List.map_set, List.getElem?_set_ne hother, hother,
          false_and, or_false]

/-- **The flag is set by a trigger** of somebody who holds a handle, and stays set. -/
theorem triggered_step (c : Cancellation) (x : Step) :
    (c.step x).triggered = true ↔
      c.triggered = true ∨ ∃ handle, x = .trigger handle ∧ c.holds handle = true := by
  cases x with
  | clone handle | wait handle =>
    simp only [step, reduceCtorEq, false_and, exists_false, or_false]
    split <;> rfl
  | trigger handle =>
    simp only [step, Step.trigger.injEq, exists_eq_left']
    split
    · next hheld =>
      refine iff_of_true ?_ (Or.inr hheld)
      unfold trigger
      split
      · assumption
      · rfl
    · next hheld => exact (or_iff_left hheld).symm
  | drop handle => simp only [step, drop, reduceCtorEq, false_and, exists_false, or_false]
  | poll waiter =>
    simp only [step, (c.poll_keeps waiter).1, reduceCtorEq, false_and, exists_false, or_false]

/-! ### What happened -/

variable {steps : List Step}

theorem run_append (c : Cancellation) (steps more : List Step) :
    c.run (steps ++ more) = (c.run steps).run more :=
  List.foldl_append

/-- **Somebody triggered the signal,** with a handle that was held at the time. -/
def Triggered (steps : List Step) : Prop :=
  Happened step {} (fun c x => ∃ handle, x = .trigger handle ∧ c.holds handle = true) steps

/-- **A waiter was told:** a poll found it ready. -/
def Told (waiter : Nat) (steps : List Step) : Prop :=
  Happened step {} (fun c x => x = .poll waiter ∧ (c.poll waiter).2 = .ready) steps

/-- The flag says whether somebody triggered the signal. -/
theorem triggered_iff (steps : List Step) : (run {} steps).triggered = true ↔ Triggered steps :=
  happened_iff (P := fun c : Cancellation => c.triggered = true) (I := fun _ => True)
    (fun _ _ h => h) (fun c x _ => c.triggered_step x) trivial Bool.false_ne_true steps

/-- A waiter is finished exactly if it was told. -/
theorem finished_iff (waiter : Nat) (steps : List Step) :
    (run {} steps).Finished waiter ↔ Told waiter steps :=
  have hstart : ¬ Finished {} waiter := fun h => nomatch h
  happened_iff (P := fun c : Cancellation => c.Finished waiter) (I := fun _ => True)
    (fun _ _ h => h) (fun c x _ => c.finished_step x waiter) trivial hstart steps

instance (steps : List Step) : Decidable (Triggered steps) :=
  decidable_of_iff _ (triggered_iff steps)

instance (c : Cancellation) (waiter : Nat) : Decidable (c.Finished waiter) :=
  inferInstanceAs (Decidable (_ = _))

instance (waiter : Nat) (steps : List Step) : Decidable (Told waiter steps) :=
  decidable_of_iff _ (finished_iff waiter steps)

theorem informed_run (steps : List Step) : (run {} steps).Informed :=
  List.foldlRecOn steps step (motive := Informed) (fun _ h => absurd h List.not_mem_nil)
    fun _ h x _ => h.step x

/-! ### What waiters are told -/

/-- A poll tells a waiter who was not told before whether the signal was triggered. -/
theorem poll_run {waiter : Nat} (hlt : waiter < (run {} steps).waiters.length)
    (hopen : ¬ Told waiter steps) :
    ((run {} steps).poll waiter).2 = if Triggered steps then .ready else .pending := by
  have hw := List.getElem?_eq_getElem hlt
  have hinformed := informed_run steps _ (List.getElem_mem hlt)
  have hstage : ((run {} steps).waiters[waiter]).stage ≠ .finished := by
    intro hstage
    rw [← finished_iff, Finished, List.getElem?_map, hw, Option.map_some, hstage] at hopen
    exact hopen rfl
  rw [poll_of_getElem? hw]
  -- An informed waiter learns what the flag says, although it may only look at its messages.
  cases htriggered : (run {} steps).triggered with
  | true =>
    rw [htriggered] at hinformed
    rw [if_pos ((triggered_iff steps).mp htriggered)]
    exact (pollWaiter_of_triggered hinformed hstage).1
  | false =>
    rw [htriggered] at hinformed
    rw [if_neg fun h => Bool.false_ne_true (htriggered.symm.trans ((triggered_iff steps).mpr h))]
    exact (pollWaiter_of_untriggered hinformed).1

/-- A second trigger changes nothing. -/
theorem step_trigger_of_triggered (h : c.triggered = true) (handle : Nat) :
    c.step (.trigger handle) = c := by
  simp only [step, trigger, h, if_true, ite_self]

/-- Without handles nobody triggers the signal any more. -/
theorem triggered_run_of_gone (hgone : c.alive = false) (more : List Step) :
    (c.run more).triggered = c.triggered := by
  have hkept : (c.run more).alive = false ∧ (c.run more).triggered = c.triggered := by
    -- That no handle is left goes along in the induction.
    refine List.foldlRecOn more step
      (motive := fun d => d.alive = false ∧ d.triggered = c.triggered) ⟨hgone, rfl⟩ ?_
    rintro d ⟨hdead, hsame⟩ x -
    have hnone : ¬ ∃ handle, d.holds handle = true := fun h =>
      Bool.false_ne_true (hdead.symm.trans (d.alive_iff.mpr h))
    refine ⟨(Bool.not_eq_true _).mp fun h => ?_, ?_⟩
    · exact Bool.false_ne_true (hdead.symm.trans (alive_step h))
    · rw [← hsame, Bool.eq_iff_iff, triggered_step, or_iff_left]
      exact fun ⟨handle, _, hheld⟩ => hnone ⟨handle, hheld⟩
  exact hkept.2

/-- Waiters come and are not removed. -/
theorem length_waiters_step (c : Cancellation) (x : Step) :
    c.waiters.length ≤ (c.step x).waiters.length := by
  cases x with
  | clone handle =>
    simp only [step]
    split <;> exact Nat.le_refl _
  | drop handle => exact Nat.le_refl _
  | trigger handle =>
    simp only [step, trigger]
    split
    · split
      · exact Nat.le_refl _
      · exact Nat.le_of_eq (List.length_map _).symm
    · exact Nat.le_refl _
  | wait handle =>
    simp only [step]
    split
    · exact (List.sublist_append_left _ _).length_le
    · exact Nat.le_refl _
  | poll waiter => exact Nat.le_of_eq (c.poll_keeps waiter).2.2.symm

/-- Nobody who came to wait is forgotten. -/
theorem length_waiters_run (c : Cancellation) (more : List Step) :
    c.waiters.length ≤ (c.run more).waiters.length :=
  List.foldlRecOn more step (motive := fun d => c.waiters.length ≤ d.waiters.length)
    (Nat.le_refl _) fun d h x _ => Nat.le_trans h (d.length_waiters_step x)

/-- Who is told is told of a trigger. -/
theorem triggered_of_told {waiter : Nat} (h : Told waiter steps) : Triggered steps := by
  obtain ⟨w, hw, hstage⟩ := Option.map_eq_some_iff.mp
    (List.getElem?_map.symm.trans ((finished_iff waiter steps).mpr h))
  exact (triggered_iff steps).mp ((informed_run steps w (List.mem_of_getElem? hw)).told hstage)

/-- If the handles were dropped and nobody has triggered, everyone goes on waiting. -/
theorem poll_run_of_gone (hgone : ∀ handle, (run {} steps).holds handle = false)
    (hnot : ¬ Triggered steps) (more : List Step) {waiter : Nat}
    (hlt : waiter < (run {} steps).waiters.length) :
    (((run {} steps).run more).poll waiter).2 = .pending := by
  have hdead : (run {} steps).alive = false := by
    refine (Bool.not_eq_true _).mp fun h => ?_
    obtain ⟨handle, hheld⟩ := (alive_iff _).mp h
    exact Bool.false_ne_true ((hgone handle).symm.trans hheld)
  have hnever : ¬ Triggered (steps ++ more) := by
    rw [← triggered_iff, run_append, triggered_run_of_gone hdead, triggered_iff]
    exact hnot
  have hthere : waiter < (run {} (steps ++ more)).waiters.length := by
    rw [run_append]
    exact Nat.lt_of_lt_of_le hlt (length_waiters_run _ more)
  rw [← run_append, poll_run hthere fun htold => hnever (triggered_of_told htold), if_neg hnever]

/-- **What those who wait are told.** In whatever order handles are made, used and dropped and
waiters come and are polled: every handle that is held says whether the signal was triggered.  A
waiter who has not been told yet is told at its poll if the signal was triggered before, by whatever
handle and whether or not any is left, and else it goes on waiting.  Further triggers change
nothing.  If the last handle was dropped and nobody has triggered, everyone who waits goes on
waiting, whatever comes. -/
theorem waiters_learn_of_trigger (steps : List Step) :
    let c := run {} steps
    (∀ handle, c.holds handle = true →
      (c.isCancelled? handle = some true ↔ Triggered steps) ∧
      (c.isCancelled? handle = some false ↔ ¬ Triggered steps))
    ∧ (∀ waiter < c.waiters.length, ¬ Told waiter steps →
      ((c.poll waiter).2 = .ready ↔ Triggered steps) ∧
      ((c.poll waiter).2 = .pending ↔ ¬ Triggered steps))
    ∧ (Triggered steps → ∀ handle, c.step (.trigger handle) = c)
    ∧ ((∀ handle, c.holds handle = false) → ¬ Triggered steps → ∀ more,
      ∀ waiter < c.waiters.length, ((c.run more).poll waiter).2 = .pending) := by
  intro c
  refine ⟨?_, ?_, ?_, ?_⟩
  · intro handle hheld
    rw [isCancelled?, if_pos hheld, Option.some.injEq, Option.some.injEq, ← triggered_iff,
      Bool.not_eq_true]
    exact ⟨Iff.rfl, Iff.rfl⟩
  · intro waiter hlt hopen
    rw [poll_run hlt hopen]
    split
    · next h => exact ⟨iff_of_true rfl h, iff_of_false Poll.noConfusion (not_not_intro h)⟩
    · next h => exact ⟨iff_of_false Poll.noConfusion h, iff_of_true rfl h⟩
  · exact fun h => step_trigger_of_triggered ((triggered_iff steps).mpr h)
  · exact fun hgone hnot more waiter hlt => poll_run_of_gone hgone hnot more hlt

/-- A waiter that was polled before the trigger and again when all handles were dropped behind it,
and one that waits for a signal that nobody can trigger any more. -/
theorem waiters_learn_of_trigger_late :
    ((run {} [.wait 0, .poll 0, .clone 0, .drop 0, .trigger 1, .drop 1]).poll 0).2 = .ready ∧
      ((run {} [.wait 0, .poll 0, .drop 0, .poll 0]).poll 0).2 = .pending := by
  obtain ⟨-, htold, -, -⟩ :=
    waiters_learn_of_trigger [.wait 0, .poll 0, .clone 0, .drop 0, .trigger 1, .drop 1]
  obtain ⟨-, -, -, hnever⟩ := waiters_learn_of_trigger [.wait 0, .poll 0, .drop 0]
  have hgone : ∀ handle, (run {} [.wait 0, .poll 0, .drop 0]).holds handle = false := by
    intro handle
    cases handle <;> rfl
  refine ⟨(htold 0 (by decide) (by decide)).1.mpr (by decide), ?_⟩
  exact hnever hgone (by decide) [.poll 0] 0 (by decide)

end Cancellation

end Callpoint
