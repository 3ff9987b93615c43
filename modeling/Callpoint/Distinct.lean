/-!
# Distinct members

The members of a list, each once, in the order of first appearance.  `mem_distinct` says that none
is lost and `nodup_distinct` that none is repeated.
-/

namespace Callpoint

variable {α : Type} [DecidableEq α]

/-- A member added at the end of a list, unless it is there. -/
def addDistinct (out : List α) (a : α) : List α := if a ∈ out then out else out ++ [a]

/-- **Each member once.** -/
def distinct (xs : List α) : List α := xs.foldl addDistinct []

theorem mem_addDistinct {out : List α} {a b : α} :
    b ∈ addDistinct out a ↔ b ∈ out ∨ b = a := by
  unfold addDistinct
  split
  · constructor
    · exact Or.inl
    · rintro (h | rfl)
      · exact h
      · assumption
  · simp

theorem nodup_addDistinct {out : List α} {a : α} (h : out.Nodup) : (addDistinct out a).Nodup := by
  unfold addDistinct
  split
  · exact h
  · next ha =>
    rw [List.nodup_append]
    refine ⟨h, by simp, ?_⟩
    intro b hb c hc
    rw [List.mem_singleton] at hc
    rintro rfl
    exact ha (hc ▸ hb)

theorem mem_foldl_addDistinct {xs out : List α} {b : α} :
    b ∈ xs.foldl addDistinct out ↔ b ∈ out ∨ b ∈ xs := by
  induction xs generalizing out with
  | nil => simp
  | cons a xs ih => rw [List.foldl_cons, ih, mem_addDistinct, List.mem_cons, or_assoc]

theorem sublist_foldl_addDistinct (out xs : List α) : out.Sublist (xs.foldl addDistinct out) := by
  induction xs generalizing out with
  | nil => exact List.Sublist.refl out
  | cons a xs ih =>
    refine List.Sublist.trans ?_ (ih (addDistinct out a))
    unfold addDistinct
    split
    · exact List.Sublist.refl out
    · exact List.sublist_append_left out [a]

theorem mem_distinct {xs : List α} {b : α} : b ∈ distinct xs ↔ b ∈ xs := by
  simp [distinct, mem_foldl_addDistinct]

theorem nodup_foldl_addDistinct {xs out : List α} (h : out.Nodup) :
    (xs.foldl addDistinct out).Nodup := by
  induction xs generalizing out with
  | nil => exact h
  | cons a xs ih => exact ih (nodup_addDistinct h)

theorem nodup_distinct (xs : List α) : (distinct xs).Nodup :=
  nodup_foldl_addDistinct List.nodup_nil

end Callpoint
