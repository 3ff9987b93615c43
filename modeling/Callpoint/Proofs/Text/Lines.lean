import Callpoint.Text.Pieces

/-!
# Lines of a text

A line in front of a text is the first of its lines (`lines_append`), and what is behind it is read
as if it stood alone.  A text that is not empty has a line (`lines_ne_nil`), and no line holds a
line feed (`not_mem_of_mem_lines`).  What holds of a last line, and of a line in front of a text if
it holds of that text, holds of every text (`lineInduction`).  There are other readings than
`lines` that go line by line (`ReadsByLine`).

Behind whole lines a text is read as if it stood alone (`WholeLines.lines_append`), and every text is
whole lines and what there is of one more (`exists_wholeLines_append`).
-/

namespace Callpoint.Text

/-! ### Pieces -/

/-- A separator parts the pieces in front of it from those behind it. -/
theorem pieces_append_sep (sep : Char) (p rest : List Char) :
    pieces sep (p ++ sep :: rest) = pieces sep p ++ pieces sep rest := by
  induction p with
  | nil => simp [pieces]
  | cons c p ih =>
    rw [List.cons_append, pieces, ih, pieces]
    split
    · rfl
    · cases hpieces : pieces sep p with
      | nil => exact absurd hpieces (pieces_ne_nil sep p)
      | cons q qs => rfl

theorem pieces_of_not_mem {sep : Char} {p : List Char} (h : sep ∉ p) : pieces sep p = [p] := by
  induction p with
  | nil => rfl
  | cons c p ih =>
    obtain ⟨hc, hp⟩ := List.ne_and_not_mem_of_not_mem_cons h
    rw [pieces, if_neg (Ne.symm hc), ih hp]

/-- What stands in front of the first separator is the first piece. -/
theorem pieces_append {sep : Char} {p : List Char} (h : sep ∉ p) (rest : List Char) :
    pieces sep (p ++ sep :: rest) = p :: pieces sep rest := by
  rw [pieces_append_sep, pieces_of_not_mem h, List.singleton_append]

/-- The last piece is joined with one separator in front of it. -/
theorem joinPieces_concat (sep : Char) {ps : List (List Char)} (h : ps ≠ []) (p : List Char) :
    joinPieces sep (ps ++ [p]) = joinPieces sep ps ++ sep :: p := by
  induction ps with
  | nil => exact absurd rfl h
  | cons q ps ih =>
    cases ps with
    | nil => rfl
    | cons r ps =>
      have ih := ih (List.cons_ne_nil r ps)
      rw [List.cons_append, List.cons_append, joinPieces, ← List.cons_append, ih, joinPieces,
        List.append_assoc, List.cons_append]

/-- No piece holds the separator. -/
theorem not_mem_of_mem_pieces {sep : Char} {cs p : List Char} (h : p ∈ pieces sep cs) :
    sep ∉ p := by
  induction cs generalizing p with
  | nil =>
    rw [pieces, List.mem_singleton] at h
    rw [h]
    exact List.not_mem_nil
  | cons c cs ih =>
    rw [pieces] at h
    split at h
    · rcases List.mem_cons.mp h with rfl | h
      · exact List.not_mem_nil
      · exact ih h
    · next hc =>
      -- The character joins the first piece of the rest.
      split at h
      · next hnil => exact absurd hnil (pieces_ne_nil sep cs)
      · next q qs hpieces =>
        rw [hpieces] at ih
        rcases List.mem_cons.mp h with rfl | h
        · exact List.not_mem_cons_of_ne_of_not_mem (Ne.symm hc) (ih List.mem_cons_self)
        · exact ih (List.mem_cons_of_mem _ h)

theorem cutAtFirst_append {sep : Char} {p : List Char} (h : sep ∉ p) (rest : List Char) :
    cutAtFirst sep (p ++ sep :: rest) = some (p, rest) := by
  induction p with
  | nil => simp [cutAtFirst]
  | cons c p ih =>
    obtain ⟨hc, hp⟩ := List.ne_and_not_mem_of_not_mem_cons h
    rw [List.cons_append, cutAtFirst, if_neg (Ne.symm hc), ih hp]
    rfl

/-- A text is cut at its first separator in one way only. -/
theorem append_cons_inj {sep : Char} {p q cs ds : List Char} (hp : sep ∉ p) (hq : sep ∉ q)
    (h : p ++ sep :: cs = q ++ sep :: ds) : p = q ∧ cs = ds := by
  have hcut : some (p, cs) = some (q, ds) := by
    rw [← cutAtFirst_append hp, ← cutAtFirst_append hq, h]
  exact Prod.mk.inj (Option.some.inj hcut)

/-! ### Carriage returns -/

theorem dropReturn_of_not_mem {line : List Char} (h : '\r' ∉ line) : dropReturn line = line := by
  unfold dropReturn
  rw [if_neg]
  intro hlast
  exact h (List.mem_of_getLast? hlast)

/-- Only the end of a line matters. -/
theorem dropReturn_append (p : List Char) {line : List Char} (h : line ≠ []) :
    dropReturn (p ++ line) = p ++ dropReturn line := by
  have hlast : (p ++ line).getLast? = line.getLast? := by
    rw [List.getLast?_append, List.getLast?_eq_some_getLast h, Option.some_or]
  unfold dropReturn
  rw [hlast, List.dropLast_append_of_ne_nil h]
  split <;> rfl

/-- A blank in front of a line is not its end, even if the line is empty. -/
theorem dropReturn_cons_space (line : List Char) :
    dropReturn (' ' :: line) = ' ' :: dropReturn line := by
  cases line with
  | nil => rfl
  | cons c line => exact dropReturn_append [' '] (List.cons_ne_nil c line)

theorem mem_of_mem_dropReturn {c : Char} {line : List Char} (h : c ∈ dropReturn line) :
    c ∈ line := by
  unfold dropReturn at h
  split at h
  · exact List.dropLast_subset line h
  · exact h

/-! ### Lines -/

/-- **A line in front of a text is its first line.** -/
theorem lines_append {line : List Char} (h : '\n' ∉ line) (rest : List Char) :
    lines (line ++ '\n' :: rest) = dropReturn line :: lines rest := by
  unfold lines
  rw [pieces_append h]
  -- Only the last piece may be dropped, and behind a line feed there is always one more.
  cases hrest : pieces '\n' rest with
  | nil => exact absurd hrest (pieces_ne_nil '\n' rest)
  | cons p ps => rfl

/-- A text without a line feed is one line, carriage return and all. -/
theorem lines_of_not_mem {line : List Char} (h : '\n' ∉ line) (hne : line ≠ []) :
    lines line = [line] := by
  unfold lines
  rw [pieces_of_not_mem h, linesOfPieces, if_neg (by rwa [List.isEmpty_iff])]

/-- **A reading line by line:** of a text it makes what it makes of the line in front and what it
makes of the rest.  Only carriage returns can make something else of a line than the line. -/
structure ReadsByLine (read parts : List Char → List (List Char)) : Prop where
  front {line : List Char} (h : '\n' ∉ line) (rest : List Char) :
    read (line ++ '\n' :: rest) = parts line ++ read rest
  whole {line : List Char} (h : '\r' ∉ line) : parts line = [line]

theorem readsByLine_lines : ReadsByLine lines fun line => [dropReturn line] where
  front h rest := lines_append h rest
  whole h := by rw [dropReturn_of_not_mem h]

/-- To make lines of pieces adds no character. -/
theorem not_mem_of_mem_linesOfPieces {ps : List (List Char)} {line : List Char} {c : Char}
    (hps : ∀ p ∈ ps, c ∉ p) (h : line ∈ linesOfPieces ps) : c ∉ line := by
  induction ps with
  | nil => cases h
  | cons p ps ih =>
    have hp := hps p List.mem_cons_self
    cases ps with
    | nil =>
      rw [linesOfPieces] at h
      split at h
      · cases h
      · rwa [List.mem_singleton.mp h]
    | cons q ps =>
      rw [linesOfPieces] at h
      rcases List.mem_cons.mp h with rfl | h
      · exact fun hc => hp (mem_of_mem_dropReturn hc)
      · exact ih (fun p hp => hps p (List.mem_cons_of_mem _ hp)) h

theorem not_mem_of_mem_lines {cs line : List Char} (h : line ∈ lines cs) : '\n' ∉ line :=
  not_mem_of_mem_linesOfPieces (fun _ hp => not_mem_of_mem_pieces hp) h

theorem lines_ne_nil {cs : List Char} (h : cs ≠ []) : lines cs ≠ [] := by
  by_cases hfeed : '\n' ∈ cs
  · obtain ⟨line, rest, rfl, hline⟩ := List.eq_append_cons_of_mem hfeed
    rw [lines_append hline]
    exact List.cons_ne_nil _ _
  · rw [lines_of_not_mem hfeed h]
    exact List.cons_ne_nil _ _

/-- **Induction along lines.** -/
theorem lineInduction {P : List Char → Prop} (last : ∀ line, '\n' ∉ line → P line)
    (more : ∀ line rest, '\n' ∉ line → P rest → P (line ++ '\n' :: rest)) (cs : List Char) :
    P cs := by
  induction hlength : cs.length using Nat.strongRecOn generalizing cs with
  | _ n ih =>
    -- Along the length: behind the first line feed the text is shorter.
    by_cases hfeed : '\n' ∈ cs
    · obtain ⟨line, rest, rfl, hline⟩ := List.eq_append_cons_of_mem hfeed
      have hshorter : rest.length < n := by
        rw [← hlength, List.length_append, List.length_cons]
        omega
      exact more line rest hline (ih rest.length hshorter rest rfl)
    · exact last cs hfeed

/-! ### Whole lines -/

/-- What ends a line. -/
def lineEnds : List (List Char) := [['\n'], ['\r', '\n']]

/-- **A text of whole lines:** it is empty or ends where a line ends. -/
inductive WholeLines : List Char → Prop
  | empty : WholeLines []
  | ended (front : List Char) {lineEnd : List Char} (h : lineEnd ∈ lineEnds) :
      WholeLines (front ++ lineEnd)

theorem exists_eq_append_feed_of_mem_lineEnds {lineEnd : List Char} (h : lineEnd ∈ lineEnds) :
    ∃ front, lineEnd = front ++ ['\n'] := by
  rcases List.mem_cons.mp h with rfl | h
  · exact ⟨[], rfl⟩
  · exact ⟨['\r'], List.mem_singleton.mp h⟩

theorem lines_of_mem_lineEnds {lineEnd : List Char} (h : lineEnd ∈ lineEnds) :
    lines lineEnd = [[]] := by
  rcases List.mem_cons.mp h with rfl | h
  · rfl
  · rw [List.mem_singleton.mp h]
    rfl

/-- A line is blank if nothing but its end is there. -/
theorem dropReturn_eq_nil_iff {line : List Char} :
    dropReturn line = [] ↔ line ++ ['\n'] ∈ lineEnds := by
  have hend : ∀ start, line ++ ['\n'] = start ++ ['\n'] ↔ line = start :=
    fun start => List.append_left_inj ['\n']
  have hmem : line ++ ['\n'] ∈ lineEnds ↔ line = [] ∨ line = ['\r'] := by
    unfold lineEnds
    rw [List.mem_cons, List.mem_singleton]
    exact or_congr (hend []) (hend ['\r'])
  rw [hmem]
  unfold dropReturn
  split
  · next hlast =>
    obtain ⟨front, rfl⟩ := List.getLast?_eq_some_iff.mp hlast
    simp
  · next hlast =>
    have hreturn : line ≠ ['\r'] := fun h => hlast (h ▸ rfl)
    exact (or_iff_left hreturn).symm

/-- A line feed parts the lines in front of it from those behind it. -/
theorem lines_append_feed (text rest : List Char) :
    lines (text ++ '\n' :: rest) = lines (text ++ ['\n']) ++ lines rest := by
  induction text using lineInduction with
  | last line hline =>
    rw [lines_append hline, lines_append hline]
    rfl
  | more line text hline ih =>
    rw [List.append_assoc, List.cons_append, lines_append hline, ih, List.append_assoc,
      List.cons_append, lines_append hline, List.cons_append]

/-- **What stands behind whole lines is read as if it stood alone.** -/
theorem WholeLines.lines_append {front : List Char} (h : WholeLines front) (rest : List Char) :
    lines (front ++ rest) = lines front ++ lines rest := by
  cases h with
  | empty => rfl
  | ended front hend =>
    -- The last line feed of `front` is where the text is parted.
    obtain ⟨start, rfl⟩ := exists_eq_append_feed_of_mem_lineEnds hend
    have hfeed := lines_append_feed (front ++ start) rest
    simpa using hfeed

/-- **A text is whole lines and what there is of the next one.** -/
theorem exists_wholeLines_append (text : List Char) :
    ∃ front line, WholeLines front ∧ '\n' ∉ line ∧ text = front ++ line := by
  induction text using lineInduction with
  | last line hline => exact ⟨[], line, .empty, hline, rfl⟩
  | more line rest hline ih =>
    obtain ⟨front, last, hfront, hlast, rfl⟩ := ih
    -- front, last, ?_, hlast, by simp⟩ :: The first line joins the whole ones, and what is left
    -- over stays.
    refine ⟨line ++ '\n' :: front, last, ?_, hlast, by simp⟩
    cases hfront with
    | empty => exact .ended line List.mem_cons_self
    | ended front hend =>
      rw [← List.cons_append, ← List.append_assoc]
      exact .ended (line ++ '\n' :: front) hend

/-- Whole lines that are not none have a last one, and in front of it stand whole lines. -/
theorem WholeLines.exists_last {text : List Char} (h : WholeLines text) (hne : text ≠ []) :
    ∃ front line, WholeLines front ∧ '\n' ∉ line ∧ text = front ++ (line ++ ['\n']) := by
  cases h with
  | empty => exact absurd rfl hne
  | ended before hend =>
    obtain ⟨start, rfl⟩ := exists_eq_append_feed_of_mem_lineEnds hend
    obtain ⟨front, line, hfront, hline, hstart⟩ := exists_wholeLines_append (before ++ start)
    refine ⟨front, line, hfront, hline, ?_⟩
    rw [← List.append_assoc, hstart, List.append_assoc]

end Callpoint.Text
