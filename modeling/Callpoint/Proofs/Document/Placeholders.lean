import Callpoint.Document.Build
import Callpoint.Proofs.Text.Lines

/-!
# Placeholders of a path

A placeholder is a name between braces within one segment of a path.  Where one brace is opened
behind another the first one counts, so what the names are is said without the order in which a path
is read (`HasPlaceholder`), and `mem_placeholders_iff` says that these are the names that are found.
-/

namespace Callpoint.Document

variable {path behind rest name before after : List Char}

/-- A name that can stand in a placeholder. -/
structure IsPlaceholderName (name : List Char) : Prop where
  ne_nil : name ≠ []
  open_until : '}' ∉ name
  one_segment : '/' ∉ name

/-- **A path has a placeholder:** a name between braces.  A brace that was opened in front of it was
closed, or its segment has ended. -/
def HasPlaceholder (path name : List Char) : Prop :=
  IsPlaceholderName name ∧ ∃ before after, path = before ++ '{' :: (name ++ '}' :: after) ∧
    ∀ first between, before = first ++ '{' :: between → '}' ∈ between ∨ '/' ∈ between

theorem placeholder?_of_isPlaceholderName (h : IsPlaceholderName name) (rest : List Char) :
    placeholder? (name ++ '}' :: rest) = some (String.ofList name, rest) := by
  have hname : ∀ c ∈ name, (c != '}' && c != '/') = true := by
    intro c hc
    rw [Bool.and_eq_true, bne_iff_ne, bne_iff_ne]
    exact ⟨fun heq => h.open_until (heq ▸ hc), fun heq => h.one_segment (heq ▸ hc)⟩
  have hne : name.isEmpty = false := List.isEmpty_eq_false_iff.mpr h.ne_nil
  unfold placeholder?
  rw [List.takeWhile_append_of_pos hname, List.dropWhile_append_of_pos hname,
    List.takeWhile_cons_of_neg (by decide), List.dropWhile_cons_of_neg (by decide),
    List.append_nil]
  simp only [hne, Bool.false_eq_true, if_false]

theorem exists_of_placeholder? {found : String} (h : placeholder? behind = some (found, rest)) :
    ∃ name, found = String.ofList name ∧ IsPlaceholderName name ∧ behind = name ++ '}' :: rest := by
  simp only [placeholder?] at h
  split at h
  · next rest' heq =>
    split at h
    · cases h
    · next hne =>
      obtain ⟨rfl, rfl⟩ := Prod.mk.inj (Option.some.inj h)
      have hname : ∀ c ∈ behind.takeWhile fun c => c != '}' && c != '/', c ≠ '}' ∧ c ≠ '/' := by
        intro c hc
        have hc := List.all_eq_true.mp List.all_takeWhile c hc
        rwa [Bool.and_eq_true, bne_iff_ne, bne_iff_ne] at hc
      refine ⟨_, rfl, ⟨fun hnil => hne (List.isEmpty_iff.mpr hnil), ?_, ?_⟩, ?_⟩
      · exact fun hmem => (hname _ hmem).1 rfl
      · exact fun hmem => (hname _ hmem).2 rfl
      · rw [← heq, List.takeWhile_append_dropWhile]
  · cases h

/-! ### Reading on -/

theorem not_hasPlaceholder_nil : ¬ HasPlaceholder [] name := by
  rintro ⟨-, before, after, hsplit, -⟩
  exact List.append_ne_nil_of_right_ne_nil before (List.cons_ne_nil _ _) hsplit.symm

/-- A character that opens nothing can be passed over. -/
theorem hasPlaceholder_cons_of_ne {c : Char} (hc : c ≠ '{') (rest name : List Char) :
    HasPlaceholder (c :: rest) name ↔ HasPlaceholder rest name := by
  refine and_congr_right fun _ => ⟨?_, ?_⟩
  · rintro ⟨_ | ⟨d, before⟩, after, hsplit, hfirst⟩
    · exact absurd (List.cons.inj hsplit).1 hc
    · obtain ⟨rfl, rfl⟩ := List.cons.inj hsplit
      refine ⟨before, after, rfl, fun first between hbetween => ?_⟩
      exact hfirst (c :: first) between (congrArg (c :: ·) hbetween)
  · rintro ⟨before, after, rfl, hfirst⟩
    refine ⟨c :: before, after, rfl, ?_⟩
    rintro (_ | ⟨d, first⟩) between hbetween
    · exact absurd (List.cons.inj hbetween).1 hc
    · exact hfirst first between (List.cons.inj hbetween).2

/-- A brace that opens no placeholder can be passed over. -/
theorem hasPlaceholder_cons_of_none (h : placeholder? rest = none) (name : List Char) :
    HasPlaceholder ('{' :: rest) name ↔ HasPlaceholder rest name := by
  refine and_congr_right fun hname => ⟨?_, ?_⟩
  · rintro ⟨_ | ⟨d, before⟩, after, hsplit, hfirst⟩
    · obtain ⟨-, rfl⟩ := List.cons.inj hsplit
      rw [placeholder?_of_isPlaceholderName hname] at h
      cases h
    · obtain ⟨rfl, rfl⟩ := List.cons.inj hsplit
      refine ⟨before, after, rfl, fun first between hbetween => ?_⟩
      exact hfirst ('{' :: first) between (congrArg ('{' :: ·) hbetween)
  · rintro ⟨before, after, rfl, hfirst⟩
    refine ⟨'{' :: before, after, rfl, ?_⟩
    rintro (_ | ⟨d, first⟩) between hbetween
    · obtain ⟨-, rfl⟩ := List.cons.inj hbetween
      -- If nothing came between the two braces, the first one would open a longer name.
      refine Decidable.byContradiction fun hnone => ?_
      obtain ⟨hclosed, hslash⟩ := not_or.mp hnone
      have hlonger : IsPlaceholderName (before ++ '{' :: name) := by
        refine ⟨List.append_ne_nil_of_right_ne_nil _ (List.cons_ne_nil _ _), ?_, ?_⟩
        · simp [hclosed, hname.open_until]
        · simp [hslash, hname.one_segment]
      have hfound := placeholder?_of_isPlaceholderName hlonger after
      rw [List.append_assoc, List.cons_append, h] at hfound
      cases hfound
    · exact hfirst first between (List.cons.inj hbetween).2

/-- Behind a placeholder it begins anew. -/
theorem hasPlaceholder_cons_of_name {found : List Char} (hfound : IsPlaceholderName found)
    (rest name : List Char) :
    HasPlaceholder ('{' :: (found ++ '}' :: rest)) name ↔
      name = found ∨ HasPlaceholder rest name := by
  constructor
  · rintro ⟨hname, _ | ⟨d, before⟩, after, hsplit, hfirst⟩
    · obtain ⟨-, hsplit⟩ := List.cons.inj hsplit
      exact Or.inl (Text.append_cons_inj hname.open_until hfound.open_until hsplit.symm).1
    · obtain ⟨rfl, htail⟩ := List.cons.inj hsplit
      -- The brace of `found` was closed between the two, so what is in front goes beyond it.
      have hbetween := hfirst [] before rfl
      rcases List.append_eq_append_iff.mp htail with ⟨more, hbefore, hrest⟩ | ⟨more, hmore, -⟩
      · cases more with
        | nil => cases (List.cons.inj hrest).1
        | cons e more =>
          obtain ⟨rfl, rfl⟩ := List.cons.inj hrest
          refine Or.inr ⟨hname, more, after, rfl, fun first between hmore => ?_⟩
          refine hfirst ('{' :: (found ++ '}' :: first)) between ?_
          rw [hbefore, hmore, List.cons_append, List.append_assoc, List.cons_append]
      · rw [hmore] at hfound
        rcases hbetween with hmem | hmem
        · exact absurd (List.mem_append_left _ hmem) hfound.open_until
        · exact absurd (List.mem_append_left _ hmem) hfound.one_segment
  · rintro (rfl | ⟨hname, before, after, rfl, hfirst⟩)
    · exact ⟨hfound, [], rest, rfl, fun first between h => by cases first <;> cases h⟩
    · refine ⟨hname, '{' :: (found ++ '}' :: before), after, by simp, ?_⟩
      rintro (_ | ⟨d, first⟩) between hbetween
      · obtain ⟨-, rfl⟩ := List.cons.inj hbetween
        exact Or.inl (List.mem_append_right _ List.mem_cons_self)
      · obtain ⟨-, htail⟩ := List.cons.inj hbetween
        rcases List.append_eq_append_iff.mp htail with ⟨more, -, hrest⟩ | ⟨more, -, hrest⟩
        · cases more with
          | nil => cases (List.cons.inj hrest).1
          | cons e more => exact hfirst more between (List.cons.inj hrest).2
        · cases more with
          | nil => cases (List.cons.inj hrest).1
          | cons e more =>
            rw [(List.cons.inj hrest).2]
            exact Or.inl (List.mem_append_right _ List.mem_cons_self)

/-- **The placeholders that are found are those that a path has.** -/
theorem mem_placeholders_iff {found : String} :
    found ∈ placeholders path ↔ HasPlaceholder path found.toList := by
  fun_induction placeholders path with
  | case1 => exact iff_of_false List.not_mem_nil not_hasPlaceholder_nil
  | case2 rest name behind hname ih =>
    obtain ⟨cs, rfl, hcs, rfl⟩ := exists_of_placeholder? hname
    rw [List.mem_cons, ih, hasPlaceholder_cons_of_name hcs, ← String.toList_inj,
      String.toList_ofList]
  | case3 rest hnone ih => rw [ih, hasPlaceholder_cons_of_none hnone]
  | case4 c rest hc ih => rw [ih, hasPlaceholder_cons_of_ne hc]

end Callpoint.Document
