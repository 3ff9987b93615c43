/-!
# Ordered association lists

A list of names with values that remembers in which order the names appeared.  Setting a name that
is there already changes its value and keeps its place; `get?_set` and `names_set` say so.
-/

namespace Callpoint

/-- **Names with values, in the order of first appearance.** -/
abbrev Assoc (α : Type) := List (String × α)

namespace Assoc

variable {α : Type}

/-- The value of a name. -/
def get? (m : Assoc α) (name : String) : Option α := m.lookup name

/-- All names in order. -/
def names (m : Assoc α) : List String := m.map Prod.fst

/-- Sets a name: in its place if it is there, else at the end. -/
def set (name : String) (a : α) : Assoc α → Assoc α
  | [] => [(name, a)]
  | (n, b) :: rest => if n = name then (n, a) :: rest else (n, b) :: set name a rest

/-- Sets the names of `more` in their order. -/
def setAll (m more : Assoc α) : Assoc α := more.foldl (fun acc (n, a) => acc.set n a) m

theorem mem_of_get? {m : Assoc α} {name : String} {a : α} (h : m.get? name = some a) :
    (name, a) ∈ m := by
  obtain ⟨before, after, rfl, -⟩ := List.lookup_eq_some_iff.mp h
  exact List.mem_append_right _ List.mem_cons_self

theorem mem_names_of_get? {m : Assoc α} {name : String} {a : α} (h : m.get? name = some a) :
    name ∈ m.names :=
  List.mem_map_of_mem (mem_of_get? h)

/-- In a list without repeated names each name has the value that it is listed with. -/
theorem get?_of_mem {m : Assoc α} (hm : m.names.Nodup) {name : String} {a : α}
    (h : (name, a) ∈ m) : m.get? name = some a := by
  obtain ⟨before, after, rfl⟩ := List.append_of_mem h
  refine List.lookup_eq_some_iff.mpr ⟨before, after, rfl, fun p hp => ?_⟩
  simp only [names, List.map_append, List.map_cons, List.nodup_append, List.mem_cons] at hm
  have hne : p.1 ≠ name := hm.2.2 _ (List.mem_map_of_mem hp) _ (Or.inl rfl)
  simpa using hne.symm

/-- The value of a name after all values were mapped. -/
theorem get?_map {β : Type} (f : α → β) (m : Assoc α) (name : String) :
    get? (m.map fun (n, a) => (n, f a)) name = (m.get? name).map f := by
  simp only [get?]
  induction m with
  | nil => rfl
  | cons entry m ih =>
    obtain ⟨n, a⟩ := entry
    simp only [List.map_cons, List.lookup_cons]
    cases name == n
    · exact ih
    · rfl

theorem get?_set (m : Assoc α) (name other : String) (a : α) :
    (m.set name a).get? other = if other = name then some a else m.get? other := by
  induction m with
  | nil => by_cases h : other = name <;> simp [set, get?, List.lookup_cons, h, beq_eq_false_iff_ne.2]
  | cons p m ih =>
    obtain ⟨n, b⟩ := p
    simp only [get?] at ih ⊢
    by_cases hn : n = name
    · subst hn
      by_cases h : other = n
      · simp [set, h]
      · simp [set, List.lookup_cons, h, beq_eq_false_iff_ne.2 h]
    · by_cases h : other = n
      · subst h
        simp [set, hn]
      · simp [set, List.lookup_cons, hn, beq_eq_false_iff_ne.2 h, ih]

theorem names_set (m : Assoc α) (name : String) (a : α) :
    (m.set name a).names = if name ∈ m.names then m.names else m.names ++ [name] := by
  induction m with
  | nil => simp [set, names]
  | cons p m ih =>
    obtain ⟨n, b⟩ := p
    simp only [names] at ih ⊢
    by_cases hn : n = name
    · subst hn
      simp [set]
    · by_cases hm : name ∈ List.map Prod.fst m
      · simp [set, hn, ih, hm]
      · simp [set, hn, ih, hm, Ne.symm hn]

theorem mem_names_set (m : Assoc α) (name other : String) (a : α) :
    other ∈ (m.set name a).names ↔ other ∈ m.names ∨ other = name := by
  rw [names_set]
  by_cases hname : name ∈ m.names
  · rw [if_pos hname]
    constructor
    · exact Or.inl
    · rintro (h | rfl)
      · exact h
      · exact hname
  · rw [if_neg hname, List.mem_append, List.mem_singleton]

theorem mem_names_setAll (m more : Assoc α) (name : String) :
    name ∈ (m.setAll more).names ↔ name ∈ m.names ∨ name ∈ more.names := by
  induction more generalizing m with
  | nil => simp [setAll, names]
  | cons pair more ih =>
    obtain ⟨n, a⟩ := pair
    have hstep : m.setAll ((n, a) :: more) = (m.set n a).setAll more := rfl
    rw [hstep, ih, mem_names_set, or_assoc]
    simp only [names, List.map_cons, List.mem_cons]

theorem nodup_names_set {m : Assoc α} (hm : m.names.Nodup) (name : String) (a : α) :
    (m.set name a).names.Nodup := by
  rw [names_set]
  split
  · exact hm
  · next hname =>
    refine List.nodup_append.mpr ⟨hm, List.pairwise_singleton _ name, ?_⟩
    intro n hn other hother heq
    exact hname (List.mem_singleton.mp hother ▸ heq ▸ hn)

theorem nodup_names_setAll {m : Assoc α} (hm : m.names.Nodup) (more : Assoc α) :
    (m.setAll more).names.Nodup := by
  induction more generalizing m with
  | nil => exact hm
  | cons pair more ih => exact ih (nodup_names_set hm pair.1 pair.2)

/-- A name keeps its value unless it is among those that are set. -/
theorem get?_setAll (m more : Assoc α) (name : String) :
    (name ∉ more.names ∧ (m.setAll more).get? name = m.get? name) ∨
      ∃ a, (name, a) ∈ more ∧ (m.setAll more).get? name = some a := by
  induction more generalizing m with
  | nil => exact Or.inl ⟨List.not_mem_nil, rfl⟩
  | cons pair more ih =>
    obtain ⟨other, b⟩ := pair
    have hstep : m.setAll ((other, b) :: more) = (m.set other b).setAll more := rfl
    rw [hstep]
    rcases ih (m.set other b) with ⟨hnot, hget⟩ | ⟨a, ha, hget⟩
    · rw [hget, get?_set]
      by_cases hother : name = other
      · subst hother
        exact Or.inr ⟨b, List.mem_cons_self, if_pos rfl⟩
      · refine Or.inl ⟨fun hmem => ?_, if_neg hother⟩
        rcases List.mem_cons.mp hmem with h | h
        · exact hother h
        · exact hnot h
    · exact Or.inr ⟨a, List.mem_cons_of_mem _ ha, hget⟩

/-- What is listed was listed before, or it is what was set. -/
theorem mem_of_mem_set {m : Assoc α} {name other : String} {a b : α}
    (h : (name, a) ∈ m.set other b) : (name, a) ∈ m ∨ name = other ∧ a = b := by
  induction m with
  | nil =>
    rw [set, List.mem_singleton] at h
    exact Or.inr (Prod.mk.inj h)
  | cons entry m ih =>
    obtain ⟨n, c⟩ := entry
    rw [set] at h
    split at h
    · next hn =>
      rcases List.mem_cons.mp h with h | h
      · obtain ⟨rfl, rfl⟩ := Prod.mk.inj h
        exact Or.inr ⟨hn, rfl⟩
      · exact Or.inl (List.mem_cons_of_mem _ h)
    · rcases List.mem_cons.mp h with h | h
      · exact Or.inl (h ▸ List.mem_cons_self)
      · exact (ih h).imp_left (List.mem_cons_of_mem _)

theorem mem_of_mem_setAll {m more : Assoc α} {name : String} {a : α}
    (h : (name, a) ∈ m.setAll more) : (name, a) ∈ m ∨ (name, a) ∈ more := by
  induction more generalizing m with
  | nil => exact Or.inl h
  | cons entry more ih =>
    obtain ⟨other, b⟩ := entry
    rcases ih h with h | h
    · rcases mem_of_mem_set h with h | ⟨rfl, rfl⟩
      · exact Or.inl h
      · exact Or.inr List.mem_cons_self
    · exact Or.inr (List.mem_cons_of_mem _ h)

/-! ### Setting names in turn -/

theorem set_set (m : Assoc α) (name : String) (a b : α) :
    (m.set name b).set name a = m.set name a := by
  induction m with
  | nil => simp [set]
  | cons entry m ih =>
    obtain ⟨n, c⟩ := entry
    by_cases hn : n = name
    · simp [set, hn]
    · simp [set, hn, ih]

/-- A name that has its place may as well be set before another one. -/
theorem set_comm_of_mem {m : Assoc α} {name other : String} (h : name ∈ m.names)
    (hne : other ≠ name) (a b : α) :
    (m.set other b).set name a = (m.set name a).set other b := by
  induction m with
  | nil => cases h
  | cons entry m ih =>
    obtain ⟨n, c⟩ := entry
    by_cases hname : n = name
    · subst hname
      simp [set, Ne.symm hne]
    · have hm : name ∈ names m := (List.mem_cons.mp h).resolve_left (Ne.symm hname)
      by_cases hother : n = other
      · simp [set, hother, hne]
      · simp [set, hname, hother, ih hm]

/-- A name that has its place and is not set again may as well be set before the others. -/
theorem set_setAll_of_not_mem {m more : Assoc α} {name : String} (h : name ∈ m.names)
    (hmore : name ∉ more.names) (a : α) :
    (m.setAll more).set name a = (m.set name a).setAll more := by
  induction more generalizing m with
  | nil => rfl
  | cons entry more ih =>
    obtain ⟨other, b⟩ := entry
    obtain ⟨hne, hmore⟩ := List.ne_and_not_mem_of_not_mem_cons hmore
    have hname : name ∈ (m.set other b).names := (mem_names_set m other name b).mpr (Or.inl h)
    calc ((m.set other b).setAll more).set name a
        = ((m.set other b).set name a).setAll more := ih hname hmore
      _ = ((m.set name a).set other b).setAll more := by rw [set_comm_of_mem h (Ne.symm hne)]

/-- A name that is set in a list is set last when the list is. -/
theorem setAll_set {m acc : Assoc α} (h : acc.names.Nodup) (name : String) (a : α) :
    m.setAll (acc.set name a) = (m.setAll acc).set name a := by
  -- In `acc` the name is set in its place, in `m` behind the others: so it must not come twice.
  induction acc generalizing m with
  | nil => rfl
  | cons entry acc ih =>
    obtain ⟨n, b⟩ := entry
    obtain ⟨hn, hacc⟩ := List.nodup_cons.mp h
    by_cases hname : n = name
    · subst hname
      have hset : n ∈ (m.set n b).names := (mem_names_set m n n b).mpr (Or.inr rfl)
      calc m.setAll (set n a ((n, b) :: acc))
          = (m.set n a).setAll acc := by rw [set, if_pos rfl]; rfl
        _ = ((m.set n b).set n a).setAll acc := by rw [set_set]
        _ = ((m.set n b).setAll acc).set n a := (set_setAll_of_not_mem hset hn a).symm
    · calc m.setAll (set name a ((n, b) :: acc))
          = (m.set n b).setAll (set name a acc) := by rw [set, if_neg hname]; rfl
        _ = ((m.set n b).setAll acc).set name a := ih hacc

/-- **Names that were set in a list are set as they were there.** -/
theorem setAll_setAll {m acc : Assoc α} (h : acc.names.Nodup) (more : Assoc α) :
    m.setAll (acc.setAll more) = (m.setAll acc).setAll more := by
  induction more generalizing acc with
  | nil => rfl
  | cons entry more ih =>
    obtain ⟨name, a⟩ := entry
    calc m.setAll ((acc.set name a).setAll more)
        = (m.setAll (acc.set name a)).setAll more := ih (nodup_names_set h name a)
      _ = ((m.setAll acc).set name a).setAll more := by rw [setAll_set h]

end Assoc

end Callpoint
