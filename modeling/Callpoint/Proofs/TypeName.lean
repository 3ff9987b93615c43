import Callpoint.TypeName

/-!
# Bare names

Of a run of path characters the last segment is kept: it is found behind any separator
(`lastSegment_behind`), and it ends as the run does (`lastSegment_concat`).  A character that is
no part of a path stays where it is, so a bare name is put together from what stands on both sides
of such a character (`bareFrom_append_cons`, `bareName_append`).  No separator is left in a bare
name (`not_infix_bareName`), which is its own bare name (`bareName_bareName`).
-/

namespace Callpoint

namespace TypeName

variable {cs pre seg : List Char}

/-! ### Separators -/

theorem hasSeparator_append_separator (pre seg : List Char) :
    hasSeparator (pre ++ ':' :: ':' :: seg) = true := by
  induction pre with
  | nil => rfl
  | cons c pre ih =>
    rw [List.cons_append]
    unfold hasSeparator
    split
    · rfl
    · next _ _ _ heq => cases heq; exact ih
    · next heq => cases heq

/-- A separator is two colons in front, or it is further behind. -/
theorem hasSeparator_cons (c : Char) (cs : List Char) :
    hasSeparator (c :: cs) = (decide (c = ':' ∧ cs.head? = some ':') || hasSeparator cs) := by
  by_cases h : c = ':' ∧ cs.head? = some ':'
  · obtain ⟨rfl, hhead⟩ := h
    obtain ⟨rest, rfl⟩ := List.head?_eq_some_iff.mp hhead
    rfl
  · rw [decide_eq_false h, Bool.false_or, hasSeparator]
    rintro rest rfl rfl
    exact h ⟨rfl, rfl⟩

theorem hasSeparator_of_not_mem (h : ':' ∉ cs) : hasSeparator cs = false := by
  induction cs with
  | nil => rfl
  | cons c cs ih =>
    rw [List.mem_cons, not_or] at h
    rw [hasSeparator_cons, ih h.2, decide_eq_false fun hc => h.1 hc.1.symm, Bool.or_false]

/-- A separator is two colons side by side. -/
theorem hasSeparator_iff : hasSeparator cs = true ↔ [':', ':'] <:+: cs := by
  induction cs with
  | nil => simp [hasSeparator]
  | cons c cs ih =>
    have hfront : [':', ':'] <+: c :: cs ↔ c = ':' ∧ cs.head? = some ':' := by
      cases cs <;> simp [List.cons_prefix_cons, eq_comm]
    rw [hasSeparator_cons, Bool.or_eq_true, decide_eq_true_eq, ih, List.infix_cons_iff, hfront]

/-- A separator is on one side of any other character. -/
theorem hasSeparator_append_cons {c : Char} (hc : c ≠ ':') (pre rest : List Char) :
    hasSeparator (pre ++ c :: rest) = (hasSeparator pre || hasSeparator rest) := by
  induction pre with
  | nil => simp [hasSeparator_cons, hasSeparator, hc]
  | cons d pre ih =>
    have hhead : (pre ++ c :: rest).head? = some ':' ↔ pre.head? = some ':' := by
      cases pre <;> simp [hc]
    rw [List.cons_append, hasSeparator_cons, hasSeparator_cons, ih, Bool.or_assoc]
    simp only [hhead]

/-! ### Last segments -/

/-- A path of one segment is its last segment. -/
theorem lastSegment_of_hasSeparator_eq_false (h : hasSeparator cs = false) :
    lastSegment cs = cs := by
  cases cs with
  | nil => rfl
  | cons c cs =>
    rw [hasSeparator_cons, Bool.or_eq_false_iff, decide_eq_false_iff_not] at h
    rw [lastSegment, h.2, if_neg Bool.false_ne_true, if_neg h.1]

theorem lastSegment_of_not_mem (h : ':' ∉ cs) : lastSegment cs = cs :=
  lastSegment_of_hasSeparator_eq_false (hasSeparator_of_not_mem h)

/-- No separator is left in a last segment. -/
theorem hasSeparator_lastSegment (cs : List Char) : hasSeparator (lastSegment cs) = false := by
  induction cs with
  | nil => rfl
  | cons c cs ih =>
    rw [lastSegment]
    split
    · exact ih
    · next hrest =>
      rw [Bool.not_eq_true] at hrest
      split
      -- The second colon may begin another separator only if the rest has one.
      · cases cs with
        | nil => rfl
        | cons d cs =>
          rw [hasSeparator_cons, Bool.or_eq_false_iff] at hrest
          exact hrest.2
      · next hc => rw [hasSeparator_cons, hrest, decide_eq_false hc, Bool.or_false]

/-- What stands behind a separator is the last segment if it has no colons. -/
theorem lastSegment_behind (pre : List Char) (h : ':' ∉ seg) :
    lastSegment (pre ++ ':' :: ':' :: seg) = seg := by
  induction pre with
  | nil =>
    -- seg) = false := by :: The two colons are the last separator, since no colon follows them.
    have hsep : hasSeparator (':' :: seg) = false := by
      rw [hasSeparator_cons, hasSeparator_of_not_mem h, Bool.or_false]
      exact decide_eq_false fun hc => h (List.mem_of_head? hc.2)
    rw [List.nil_append, lastSegment, hsep, if_neg Bool.false_ne_true, if_pos ⟨rfl, rfl⟩,
      List.drop_one, List.tail_cons]
  | cons c pre ih =>
    rw [List.cons_append, lastSegment, hasSeparator_append_separator, if_pos rfl, ih]

theorem lastSegment_suffix (cs : List Char) : lastSegment cs <:+ cs := by
  induction cs with
  | nil => exact List.suffix_refl _
  | cons c cs ih =>
    rw [lastSegment]
    split
    · exact ih.trans (List.suffix_cons ..)
    · split
      · exact (List.drop_suffix 1 cs).trans (List.suffix_cons ..)
      · exact List.suffix_refl _

/-- A last segment ends as the whole path does, if that does not end in a colon. -/
theorem lastSegment_concat {c : Char} (cs : List Char) (h : c ≠ ':') :
    ∃ front, lastSegment (cs ++ [c]) = front ++ [c] := by
  induction cs with
  | nil => exact ⟨[], lastSegment_of_not_mem (by simpa using Ne.symm h)⟩
  | cons d cs ih =>
    rw [List.cons_append, lastSegment]
    split
    · exact ih
    · split
      · next hd =>
        cases cs with
        | nil => simp [h] at hd
        | cons e cs => exact ⟨cs, rfl⟩
      · exact ⟨d :: cs, rfl⟩

/-! ### Bare names -/

/-- A character that is no part of a path separates what is on both sides of it. -/
theorem bareFrom_append_cons {c : Char} (hc : isPathChar c = false) (path cs rest : List Char) :
    bareFrom path (cs ++ c :: rest) = bareFrom path cs ++ c :: bareFrom [] rest := by
  induction cs generalizing path with
  | nil => rw [List.nil_append, bareFrom, bareFrom, if_neg (Bool.not_eq_true _ ▸ hc)]
  | cons d cs ih =>
    rw [List.cons_append, bareFrom, bareFrom]
    split
    · exact ih _
    · rw [ih, List.append_assoc, List.cons_append]

/-- A run of path characters alone is reduced to its last segment. -/
theorem bareFrom_of_path (path : List Char) (h : ∀ c ∈ cs, isPathChar c = true) :
    bareFrom path cs = lastSegment (path.reverse ++ cs) := by
  induction cs generalizing path with
  | nil => rw [bareFrom, List.append_nil]
  | cons c cs ih =>
    rw [bareFrom, if_pos (h c List.mem_cons_self),
      ih _ fun d hd => h d (List.mem_cons_of_mem _ hd), List.reverse_cons, List.append_assoc]
    rfl

/-- A last segment is its own bare name. -/
theorem bareFrom_lastSegment (h : ∀ c ∈ cs, isPathChar c = true) :
    bareFrom [] (lastSegment cs) = lastSegment cs := by
  rw [bareFrom_of_path [] fun c hc => h c ((lastSegment_suffix cs).subset hc)]
  exact lastSegment_of_hasSeparator_eq_false (hasSeparator_lastSegment cs)

/-- What is bare stays as it is, whatever run came before. -/
theorem bareFrom_bareFrom (path cs : List Char) (h : ∀ c ∈ path, isPathChar c = true) :
    bareFrom [] (bareFrom path cs) = bareFrom path cs := by
  -- The run in front is reduced to its last segment, which is not reduced any further.
  have hrun : bareFrom [] (lastSegment path.reverse) = lastSegment path.reverse :=
    bareFrom_lastSegment fun c hc => h c (List.mem_reverse.mp hc)
  induction cs generalizing path with
  | nil => rw [bareFrom, hrun]
  | cons c cs ih =>
    rw [bareFrom]
    split
    · next hc =>
      have hpath : ∀ d ∈ c :: path, isPathChar d = true := List.forall_mem_cons.mpr ⟨hc, h⟩
      exact ih _ hpath (bareFrom_lastSegment fun d hd => hpath d (List.mem_reverse.mp hd))
    · next hc =>
      rw [bareFrom_append_cons (Bool.not_eq_true _ ▸ hc), hrun,
        ih [] (fun _ hd => nomatch hd) rfl]

/-- No run that is reduced has a separator left. -/
theorem hasSeparator_bareFrom (path cs : List Char) : hasSeparator (bareFrom path cs) = false := by
  induction cs generalizing path with
  | nil => exact hasSeparator_lastSegment path.reverse
  | cons c cs ih =>
    rw [bareFrom]
    split
    · exact ih (c :: path)
    · next hc =>
      -- A colon is part of a path, so no separator reaches across `c`.
      have hcolon : c ≠ ':' := by
        rintro rfl
        exact hc rfl
      rw [hasSeparator_append_cons hcolon, hasSeparator_lastSegment, ih, Bool.or_false]

end TypeName

/-- A bare name is its own bare name. -/
theorem bareName_bareName (full : String) : bareName (bareName full) = bareName full := by
  rw [bareName, bareName, String.toList_ofList,
    TypeName.bareFrom_bareFrom [] _ fun _ hc => nomatch hc]

/-- A bare name holds no separator. -/
theorem not_infix_bareName (full : String) : ¬ [':', ':'] <:+: (bareName full).toList := by
  intro hinfix
  have hsep := TypeName.hasSeparator_iff.mpr hinfix
  rw [bareName, String.toList_ofList, TypeName.hasSeparator_bareFrom] at hsep
  cases hsep

/-- Names on both sides of a mark are stripped each on its own. -/
theorem bareName_append {c : Char} (hc : TypeName.isPathChar c = false) (a b : String) :
    bareName (a ++ String.singleton c ++ b) = bareName a ++ String.singleton c ++ bareName b := by
  have hfull : (a ++ String.singleton c ++ b).toList = a.toList ++ c :: b.toList := by simp
  apply String.toList_injective
  simp only [bareName, hfull, TypeName.bareFrom_append_cons hc, String.toList_append,
    String.toList_ofList, String.toList_singleton, List.append_assoc, List.singleton_append]

end Callpoint
