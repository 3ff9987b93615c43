import Callpoint.Proofs.Text.Lines

/-!
# Line breaks

A line feed, a carriage return, and both together are line breaks.  `linesAtBreaks` ends a line at
each of them, while `lines` passes over a carriage return that stands alone: so a line of the one
kind may be several of the other (`linesAtBreaks_append`).  `withLineFeeds` writes the line breaks
that `lines` knows as line feeds.
-/

namespace Callpoint.Text

/-! ### Pieces behind a text -/

/-- What stands in front of a text without separators joins its first piece. -/
theorem pieces_append_of_eq_cons {sep : Char} {p cs q : List Char} {qs : List (List Char)}
    (h : sep ∉ p) (hcs : pieces sep cs = q :: qs) : pieces sep (p ++ cs) = (p ++ q) :: qs := by
  induction p with
  | nil => exact hcs
  | cons c p ih =>
    obtain ⟨hc, hp⟩ := List.ne_and_not_mem_of_not_mem_cons h
    rw [List.cons_append, pieces, if_neg (Ne.symm hc), ih hp]
    rfl

/-- Where a text ends at a separator, it lies in front of the first one or behind it. -/
theorem infix_append_cons_iff {sep : Char} {p line : List Char} (hp : sep ∉ p) (hline : sep ∉ line)
    (rest : List Char) :
    p ++ [sep] <:+: line ++ sep :: rest ↔ p <:+ line ∨ p ++ [sep] <:+: rest := by
  constructor
  · rintro ⟨s, u, h⟩
    have hcut : s ++ p ++ sep :: u = line ++ sep :: rest := by
      rw [← h]
      simp
    by_cases hs : sep ∈ s
    · -- The first separator stands in front, so all of it comes behind.
      obtain ⟨before, behind, rfl, hbefore⟩ := List.eq_append_cons_of_mem hs
      have hfirst : before ++ sep :: (behind ++ p ++ sep :: u) = line ++ sep :: rest := by
        rw [← hcut]
        simp
      obtain ⟨-, rfl⟩ := append_cons_inj hbefore hline hfirst
      exact Or.inr ⟨behind, u, by simp⟩
    · have hfront : sep ∉ s ++ p := fun hmem => (List.mem_append.mp hmem).elim hs hp
      obtain ⟨rfl, -⟩ := append_cons_inj hfront hline hcut
      exact Or.inl (List.suffix_append s p)
  · rintro (⟨s, rfl⟩ | ⟨s, u, rfl⟩)
    · exact ⟨s, rest, by simp⟩
    · exact ⟨line ++ sep :: s, u, by simp⟩

/-! ### Carriage returns in front of a line feed -/

theorem dropReturn_eq_self_iff {line : List Char} :
    dropReturn line = line ↔ line.getLast? ≠ some '\r' := by
  unfold dropReturn
  split
  · next hlast =>
    refine iff_of_false ?_ (not_not_intro hlast)
    intro heq
    have hlength := congrArg List.length heq
    have hne : line ≠ [] := fun hnil => nomatch hnil ▸ hlast
    have hpos := List.length_pos_iff.mpr hne
    rw [List.length_dropLast] at hlength
    omega
  · next hlast => exact iff_of_true rfl hlast

/-- Only one carriage return belongs to a line break. -/
theorem dropReturn_dropReturn_iff {line : List Char} :
    dropReturn (dropReturn line) = dropReturn line ↔ ¬ ['\r', '\r'] <:+ line := by
  rw [dropReturn_eq_self_iff]
  refine not_congr ?_
  unfold dropReturn
  split
  · next hlast =>
    obtain ⟨front, rfl⟩ := List.getLast?_eq_some_iff.mp hlast
    rw [List.dropLast_concat, List.getLast?_eq_some_iff]
    constructor
    · rintro ⟨start, rfl⟩
      exact ⟨start, by simp⟩
    · rintro ⟨start, h⟩
      refine ⟨start, ?_⟩
      have hconcat : start ++ ['\r'] ++ ['\r'] = front ++ ['\r'] := by
        rw [← h]
        simp
      exact (List.append_cancel_right hconcat).symm
  · next hlast =>
    refine iff_of_false hlast ?_
    rintro ⟨start, rfl⟩
    exact hlast (by simp)

/-! ### Lines at every line break -/

/-- **The lines of a text at every line break:** a line feed, a carriage return, or a line feed
behind a carriage return. -/
def linesAtBreaks : List Char → List (List Char)
  | [] => []
  | '\r' :: '\n' :: cs => [] :: linesAtBreaks cs
  | c :: cs =>
    if c = '\n' ∨ c = '\r' then [] :: linesAtBreaks cs
    else match linesAtBreaks cs with
      | [] => [[c]]
      | line :: more => (c :: line) :: more

theorem linesAtBreaks_feed (cs : List Char) : linesAtBreaks ('\n' :: cs) = [] :: linesAtBreaks cs :=
  rfl

theorem linesAtBreaks_return {c : Char} (hc : c ≠ '\n') (cs : List Char) :
    linesAtBreaks ('\r' :: c :: cs) = [] :: linesAtBreaks (c :: cs) := by
  rw [linesAtBreaks.eq_3]
  · rfl
  · intro rest _ heq
    exact hc (List.cons.inj heq).1

theorem linesAtBreaks_cons {c : Char} (hfeed : c ≠ '\n') (hreturn : c ≠ '\r') {cs : List Char}
    {line : List Char} {more : List (List Char)} (hcs : linesAtBreaks cs = line :: more) :
    linesAtBreaks (c :: cs) = (c :: line) :: more := by
  rw [linesAtBreaks.eq_3]
  · rw [if_neg (not_or.mpr ⟨hfeed, hreturn⟩), hcs]
  · intro rest heq _
    exact hreturn heq

/-- **A line may be broken by carriage returns** other than the one at its end. -/
theorem linesAtBreaks_append {line : List Char} (h : '\n' ∉ line) (rest : List Char) :
    linesAtBreaks (line ++ '\n' :: rest)
      = pieces '\r' (dropReturn line) ++ linesAtBreaks rest := by
  induction line with
  | nil => exact linesAtBreaks_feed rest
  | cons c line ih =>
    obtain ⟨hc, hline⟩ := List.ne_and_not_mem_of_not_mem_cons h
    have hrest := ih hline
    by_cases hreturn : c = '\r'
    · subst hreturn
      -- The carriage return ends a line by itself unless the line feed is next.
      cases line with
      | nil => rfl
      | cons d line =>
        obtain ⟨hd, -⟩ := List.ne_and_not_mem_of_not_mem_cons hline
        have hdrop : dropReturn ('\r' :: d :: line) = '\r' :: dropReturn (d :: line) :=
          dropReturn_append ['\r'] (List.cons_ne_nil d line)
        rw [hdrop, pieces, if_pos rfl]
        show _ = [] :: (pieces '\r' (dropReturn (d :: line)) ++ linesAtBreaks rest)
        rw [← hrest]
        exact linesAtBreaks_return (Ne.symm hd) _
    · have hdrop : dropReturn (c :: line) = c :: dropReturn line := by
        cases line with
        | nil => simp [dropReturn, hreturn]
        | cons d line => exact dropReturn_append [c] (List.cons_ne_nil d line)
      cases hpieces : pieces '\r' (dropReturn line) with
      | nil => exact absurd hpieces (pieces_ne_nil '\r' _)
      | cons q qs =>
        rw [hpieces] at hrest
        rw [hdrop, pieces, if_neg hreturn, hpieces]
        exact linesAtBreaks_cons (Ne.symm hc) hreturn hrest

theorem readsByLine_linesAtBreaks :
    ReadsByLine linesAtBreaks fun line => pieces '\r' (dropReturn line) where
  front h rest := linesAtBreaks_append h rest
  whole h := by rw [dropReturn_of_not_mem h, pieces_of_not_mem h]

/-! ### Line feeds for line breaks -/

/-- **A text with a line feed** for every carriage return and line feed together. -/
def withLineFeeds : List Char → List Char
  | [] => []
  | '\r' :: '\n' :: cs => '\n' :: withLineFeeds cs
  | c :: cs => c :: withLineFeeds cs

theorem withLineFeeds_cons {c : Char} {cs : List Char} (h : c = '\r' → cs.head? ≠ some '\n') :
    withLineFeeds (c :: cs) = c :: withLineFeeds cs := by
  rw [withLineFeeds.eq_3]
  intro rest hc hcs
  exact h hc (by rw [hcs]; rfl)

theorem withLineFeeds_of_not_mem {line : List Char} (h : '\n' ∉ line) :
    withLineFeeds line = line := by
  induction line with
  | nil => rfl
  | cons c line ih =>
    obtain ⟨-, hline⟩ := List.ne_and_not_mem_of_not_mem_cons h
    rw [withLineFeeds_cons, ih hline]
    intro _ hhead
    exact hline (List.mem_of_mem_head? hhead)

theorem withLineFeeds_append {line : List Char} (h : '\n' ∉ line) (rest : List Char) :
    withLineFeeds (line ++ '\n' :: rest) = dropReturn line ++ '\n' :: withLineFeeds rest := by
  induction line with
  | nil => exact withLineFeeds_cons fun hc => nomatch hc
  | cons c line ih =>
    obtain ⟨-, hline⟩ := List.ne_and_not_mem_of_not_mem_cons h
    cases line with
    | nil =>
      by_cases hreturn : c = '\r'
      · subst hreturn
        rfl
      · have hdrop : dropReturn [c] = [c] := by simp [dropReturn, hreturn]
        rw [List.cons_append, withLineFeeds_cons fun hc => absurd hc hreturn, ih hline, hdrop]
        rfl
    | cons d line =>
      obtain ⟨hd, -⟩ := List.ne_and_not_mem_of_not_mem_cons hline
      have hdrop : dropReturn (c :: d :: line) = c :: dropReturn (d :: line) :=
        dropReturn_append [c] (List.cons_ne_nil d line)
      have hhead : c = '\r' → (d :: line ++ '\n' :: rest).head? ≠ some '\n' := by
        intro _ hhead
        exact hd (Option.some.inj hhead).symm
      rw [List.cons_append, withLineFeeds_cons hhead, ih hline, hdrop]
      rfl

end Callpoint.Text
