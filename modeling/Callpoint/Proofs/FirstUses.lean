import Mathlib.Data.List.Basic
import Mathlib.Data.List.Induction
import Callpoint.Distinct

/-!
# The order of first use

`distinct` leaves of each member the first occurrence, so what it returns is the members in the
order in which they were first used (`firstUses_distinct`).
-/

namespace Callpoint

variable {α : Type} [DecidableEq α] {xs ys : List α}

/-- **The members of a list in the order of first use:** no others, and of any two the one comes
first that the list has first.  So none is repeated. -/
structure FirstUses (xs ys : List α) : Prop where
  mem_iff : ∀ a, a ∈ ys ↔ a ∈ xs
  ordered : ys.Pairwise fun a b => xs.idxOf a < xs.idxOf b

theorem FirstUses.nodup (h : FirstUses xs ys) : ys.Nodup := by
  refine h.ordered.imp fun {a b} hlt => ?_
  rintro rfl
  exact Nat.lt_irrefl _ hlt

/-- One more use comes last, unless it is not the first. -/
theorem FirstUses.append_singleton (h : FirstUses xs ys) (a : α) :
    FirstUses (xs ++ [a]) (addDistinct ys a) := by
  have hordered : ys.Pairwise fun b c => (xs ++ [a]).idxOf b < (xs ++ [a]).idxOf c := by
    refine h.ordered.imp_of_mem fun {b c} hb hc hlt => ?_
    rw [List.idxOf_append_of_mem ((h.mem_iff b).mp hb),
      List.idxOf_append_of_mem ((h.mem_iff c).mp hc)]
    exact hlt
  constructor
  · intro b
    rw [mem_addDistinct, h.mem_iff, List.mem_append, List.mem_singleton]
  · unfold addDistinct
    split
    · exact hordered
    · next hnew =>
      refine List.pairwise_append.mpr ⟨hordered, List.pairwise_singleton _ _, ?_⟩
      intro b hb c hc
      obtain rfl := List.mem_singleton.mp hc
      -- What was used before stands within `xs`, and what is new behind it.
      have hused : b ∈ xs := (h.mem_iff b).mp hb
      have hunused : c ∉ xs := fun hmem => hnew ((h.mem_iff c).mpr hmem)
      have hlt := List.idxOf_lt_length_of_mem hused
      rw [List.idxOf_append_of_mem hused, List.idxOf_append_of_notMem hunused]
      omega

/-- **`distinct` keeps the order of first use.** -/
theorem firstUses_distinct (xs : List α) : FirstUses xs (distinct xs) := by
  induction xs using List.reverseRecOn with
  | nil => exact ⟨fun _ => Iff.rfl, List.Pairwise.nil⟩
  | append_singleton xs a ih =>
    unfold distinct at ih ⊢
    rw [List.foldl_append]
    exact ih.append_singleton a

example : distinct ["users", "orders", "users"] = ["users", "orders"] := by decide

end Callpoint
