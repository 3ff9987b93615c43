import Mathlib.Logic.Relation

/-!
# Walking depth first

A depth-first walk over members of which each leads to some others, whatever the members are.
`Visits next met starts out` says that a walk that has met `met` and is to go to `starts` has met
`out` in the end, in the order of the first visits.

A walk has one outcome (`Visits.unique`) and meets nothing twice (`Visits.nodup`).  A walk that
starts with nothing met meets what can be reached, and that only (`Visits.mem_iff`).
-/

namespace Callpoint

variable {α : Type}

/-- **A walk,** depth first.  A member that was met is passed over; behind one that is new comes
first all that it leads to, and then what is left of the starts. -/
inductive Visits (next : α → List α) : List α → List α → List α → Prop
  | done {met : List α} : Visits next met [] met
  | again {met starts out : List α} {a : α} (hmet : a ∈ met) (hrest : Visits next met starts out) :
      Visits next met (a :: starts) out
  | first {met starts below out : List α} {a : α} (hnew : a ∉ met)
      (hbelow : Visits next (met ++ [a]) (next a) below) (hrest : Visits next below starts out) :
      Visits next met (a :: starts) out

namespace Visits

variable {next : α → List α} {met starts more out out' : List α} {a : α}

/-! ### The order of the visits -/

/-- What was met comes first. -/
theorem isPrefix (h : Visits next met starts out) : met <+: out := by
  induction h with
  | done => exact List.prefix_refl _
  | again _ _ ih => exact ih
  | first _ _ _ ihbelow ihrest =>
    exact ((List.prefix_append _ _).trans ihbelow).trans ihrest

/-- Two walks, the second from where the first one ended, are one. -/
theorem append (h : Visits next met starts out) (hmore : Visits next out more out') :
    Visits next met (starts ++ more) out' := by
  induction h with
  | done => exact hmore
  | again hmet _ ih => exact .again hmet (ih hmore)
  | first hnew hbelow _ _ ihrest => exact .first hnew hbelow (ihrest hmore)

/-- **A walk has one outcome.** -/
theorem unique (h : Visits next met starts out) (h' : Visits next met starts out') :
    out = out' := by
  induction h generalizing out' with
  | done =>
    cases h'
    rfl
  | again hmet _ ih =>
    cases h' with
    | again _ hrest => exact ih hrest
    | first hnew _ _ => exact absurd hmet hnew
  | first hnew _ _ ihbelow ihrest =>
    cases h' with
    | again hmet _ => exact absurd hmet hnew
    | first _ hbelow hrest =>
      obtain rfl := ihbelow hbelow
      exact ihrest hrest

/-- **Nothing is met twice.** -/
theorem nodup (h : Visits next met starts out) (hmet : met.Nodup) : out.Nodup := by
  induction h with
  | done => exact hmet
  | again _ _ ih => exact ih hmet
  | first hnew _ _ ihbelow ihrest =>
    refine ihrest (ihbelow ?_)
    rw [List.nodup_append]
    refine ⟨hmet, by simp, ?_⟩
    rintro b hb c hc rfl
    rw [List.mem_singleton] at hc
    exact hnew (hc ▸ hb)

/-! ### What is met -/

theorem mem_of_start (h : Visits next met starts out) (ha : a ∈ starts) : a ∈ out := by
  induction h with
  | done => cases ha
  | again hmet hrest ih =>
    rcases List.mem_cons.mp ha with rfl | ha
    · exact hrest.isPrefix.subset hmet
    · exact ih ha
  | @first met _ _ _ b hnew hbelow hrest _ ihrest =>
    rcases List.mem_cons.mp ha with rfl | ha
    · have hself : a ∈ met ++ [a] := List.mem_append_right _ (List.mem_singleton_self a)
      exact hrest.isPrefix.subset (hbelow.isPrefix.subset hself)
    · exact ihrest ha

/-- What is new can be reached from one of the starts. -/
theorem reached (h : Visits next met starts out) (ha : a ∈ out) :
    a ∈ met ∨ ∃ start ∈ starts, Relation.ReflTransGen (fun x y => y ∈ next x) start a := by
  induction h with
  | done => exact Or.inl ha
  | again _ _ ih =>
    rcases ih ha with hmet | ⟨start, hstart, hreach⟩
    · exact Or.inl hmet
    · exact Or.inr ⟨start, List.mem_cons_of_mem _ hstart, hreach⟩
  | @first met _ _ _ b _ _ _ ihbelow ihrest =>
    rcases ihrest ha with hin | ⟨start, hstart, hreach⟩
    · -- Met by the end of the way down from `b`: before it, `b` itself, or behind `b`.
      rcases ihbelow hin with hmet | ⟨start, hstart, hreach⟩
      · rcases List.mem_append.mp hmet with hmet | hself
        · exact Or.inl hmet
        · obtain rfl := List.mem_singleton.mp hself
          exact Or.inr ⟨a, List.mem_cons_self, .refl⟩
      · exact Or.inr ⟨b, List.mem_cons_self, .head hstart hreach⟩
    · exact Or.inr ⟨start, List.mem_cons_of_mem _ hstart, hreach⟩

/-- What is new leads nowhere else: all that it leads to is met as well. -/
theorem closed (h : Visits next met starts out) (ha : a ∈ out) (hnew : a ∉ met) :
    ∀ b ∈ next a, b ∈ out := by
  induction h with
  | done => exact absurd ha hnew
  | again _ _ ih => exact ih ha hnew
  | @first met _ below _ b _ hbelow hrest ihbelow ihrest =>
    by_cases hin : a ∈ below
    · -- Met on the way down from `b`, so it is `b` itself or behind it.
      intro c hc
      refine hrest.isPrefix.subset ?_
      by_cases hself : a = b
      · subst hself
        exact hbelow.mem_of_start hc
      · refine ihbelow hin ?_ c hc
        intro hmet
        rcases List.mem_append.mp hmet with hmet | hmem
        · exact hnew hmet
        · exact hself (List.mem_singleton.mp hmem)
    · exact ihrest ha hin

/-- **A walk from nothing meets what can be reached,** and that only. -/
theorem mem_iff (h : Visits next [] starts out) :
    a ∈ out ↔ ∃ start ∈ starts, Relation.ReflTransGen (fun x y => y ∈ next x) start a := by
  constructor
  · intro ha
    exact (h.reached ha).resolve_left List.not_mem_nil
  · rintro ⟨start, hstart, hreach⟩
    induction hreach with
    | refl => exact h.mem_of_start hstart
    | tail _ hstep ih => exact h.closed ih List.not_mem_nil _ hstep

end Visits

end Callpoint
