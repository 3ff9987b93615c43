import Callpoint.Proofs.Stream.Frames

/-!
# Where the text of a stream can be cut

A reader of frames carries what it has read of one from line to line, and only an empty line sets it
back.  So a text can be cut behind a blank line and nowhere else (`cut_iff_wholeFrames`): what
stands in front of the cut and what stands behind it are read on their own, and a keep-alive frame
between them is one more frame that touches no other.  Anywhere else the last frame takes up what
comes next (`Unfinished.length_parseAll_append`).
-/

namespace Callpoint.Frame

open Callpoint.Text

/-! ### Whole frames -/

/-- **A text of whole frames:** it is empty or ends with a blank line, which is an end of a line
where no line has been begun. -/
inductive WholeFrames : List Char → Prop
  | empty : WholeFrames []
  | blank {front lineEnd : List Char} (hfront : WholeLines front) (h : lineEnd ∈ lineEnds) :
      WholeFrames (front ++ lineEnd)

/-- **A text with an unfinished frame:** its last line is not blank, or has not ended. -/
inductive Unfinished : List Char → Prop
  | ended {front line : List Char} (hfront : WholeLines front) (hfeed : '\n' ∉ line)
      (hblank : dropReturn line ≠ []) : Unfinished (front ++ (line ++ ['\n']))
  | begun {front line : List Char} (hfront : WholeLines front) (hfeed : '\n' ∉ line)
      (hne : line ≠ []) : Unfinished (front ++ line)

theorem wholeFrames_or_unfinished (text : List Char) : WholeFrames text ∨ Unfinished text := by
  obtain ⟨front, line, hfront, hline, rfl⟩ := exists_wholeLines_append text
  by_cases hne : line = []
  · -- Nothing has been begun, so the last of the whole lines decides.
    subst hne
    rw [List.append_nil]
    by_cases hempty : front = []
    · subst hempty
      exact Or.inl .empty
    · obtain ⟨before, last, hbefore, hlast, rfl⟩ := hfront.exists_last hempty
      by_cases hblank : dropReturn last = []
      · exact Or.inl (.blank hbefore (dropReturn_eq_nil_iff.mp hblank))
      · exact Or.inr (.ended hbefore hlast hblank)
  · exact Or.inr (.begun hfront hline hne)

/-! ### Behind whole frames -/

/-- The last line of whole frames is empty. -/
theorem lines_append_lineEnd {front lineEnd : List Char} (hfront : WholeLines front)
    (h : lineEnd ∈ lineEnds) (rest : List Char) :
    lines (front ++ lineEnd ++ rest) = lines front ++ [] :: lines rest := by
  rw [(WholeLines.ended front h).lines_append, hfront.lines_append, lines_of_mem_lineEnds h,
    List.append_assoc, List.singleton_append]

theorem WholeFrames.parseAll_append {text : String} (h : WholeFrames text.toList) (rest : String) :
    parseAll (text ++ rest) = parseAll text ++ parseAll rest := by
  unfold parseAll
  rw [String.toList_append]
  generalize text.toList = chars at h
  cases h with
  | empty => rfl
  | @blank front lineEnd hfront hend =>
    have hrest := lines_append_lineEnd hfront hend rest.toList
    have hnone := lines_append_lineEnd hfront hend []
    rw [List.append_nil] at hnone
    rw [hrest, hnone, ofLines_append_blank, ofLines_append_blank, List.append_assoc]
    rfl

theorem parseAll_keepAliveFrame_append (rest : String) :
    parseAll (keepAliveFrame ++ rest) = { comments := ["keepalive"] } :: parseAll rest := by
  have hframe : (Outgoing.comment "keepalive").frame = .ok keepAliveFrame := rfl
  rw [parseAll_append_of_frame hframe]
  rfl

/-! ### Behind an unfinished frame -/

/-- The last line of an unfinished frame and what comes next are lines of one frame. -/
theorem Unfinished.exists_lines {text more : List Char} (h : Unfinished text)
    (hfeed : '\n' ∉ more) (hne : more ≠ []) :
    ∃ ls line fields, lines text = ls ++ [line] ∧ lines (text ++ more) = ls ++ fields ∧
      line ≠ [] ∧ fields ≠ [] ∧ ∀ l ∈ fields, l ≠ [] := by
  cases h with
  | @ended front line hfront hline hblank =>
    have htext : lines (line ++ ['\n']) = [dropReturn line] := lines_append hline []
    have hmore : lines (line ++ ['\n'] ++ more) = [dropReturn line, more] := by
      rw [List.append_assoc, List.singleton_append, lines_append hline, lines_of_not_mem hfeed hne]
    refine ⟨lines front, dropReturn line, [dropReturn line, more], ?_, ?_, hblank,
      List.cons_ne_nil _ _, by simp [hblank, hne]⟩
    · rw [hfront.lines_append, htext]
    · rw [List.append_assoc, hfront.lines_append, hmore]
  | @begun front line hfront hline hbegun =>
    have hlonger : line ++ more ≠ [] := List.append_ne_nil_of_left_ne_nil hbegun more
    have hall : '\n' ∉ line ++ more := by simp [hline, hfeed]
    refine ⟨lines front, line, [line ++ more], ?_, ?_, hbegun, List.cons_ne_nil _ _,
      by simp [hbegun]⟩
    · rw [hfront.lines_append, lines_of_not_mem hline hbegun]
    · rw [List.append_assoc, hfront.lines_append, lines_of_not_mem hall hlonger]

/-- **An unfinished frame goes on:** what stands on a line behind it makes no frame of its own. -/
theorem Unfinished.length_parseAll_append {text more : String} (h : Unfinished text.toList)
    (hfeed : '\n' ∉ more.toList) (hne : more.toList ≠ []) :
    (parseAll (text ++ more)).length = (parseAll text).length := by
  obtain ⟨ls, line, fields, htext, hmore, hline, hfields, hall⟩ := h.exists_lines hfeed hne
  obtain ⟨finished, begun, hread⟩ := exists_ofLines_append none ls
  have hlast : ∀ l ∈ [line], l ≠ [] := by simpa using hline
  unfold parseAll
  rw [String.toList_append, hmore, htext, hread, hread, ofLines_of_ne_nil hfields hall,
    ofLines_of_ne_nil (List.cons_ne_nil _ _) hlast]
  simp

/-! ### Cuts -/

/-- **Where a text can be cut.**  Behind a text whatever follows is read as if it stood alone, and a
keep-alive frame in between is one more frame with nothing but its comment, exactly if the text is
empty or ends with a blank line. -/
theorem cut_iff_wholeFrames (text : String) :
    (∀ rest, parseAll (text ++ rest) = parseAll text ++ parseAll rest ∧
        parseAll (text ++ keepAliveFrame ++ rest)
          = parseAll text ++ { comments := ["keepalive"] } :: parseAll rest) ↔
      WholeFrames text.toList := by
  constructor
  · intro hcut
    rcases wholeFrames_or_unfinished text.toList with h | h
    · exact h
    · -- A line more would be a frame more.
      have hlength : (parseAll (text ++ ":")).length = (parseAll text).length :=
        h.length_parseAll_append (by decide) (by decide)
      have hone : (parseAll ":").length = 1 := by decide
      rw [(hcut ":").1, List.length_append, hone] at hlength
      omega
  · intro h rest
    refine ⟨h.parseAll_append rest, ?_⟩
    rw [String.append_assoc, h.parseAll_append, parseAll_keepAliveFrame_append]

/-- Line ends of both kinds, a label that is not known, blank lines one behind the other and a frame
without its end. -/
theorem cut_iff_wholeFrames_unended :
    let text := "data: a\r\nretry: 5\n\r\n\n: b\n\r\n"
    WholeFrames text.toList ∧
      parseAll (text ++ "id: 7") = [{ data := some "a" }, { comments := ["b"] },
        { id := some "7" }] ∧
      parseAll (text ++ ": keepalive\n\n" ++ "id: 7") = [{ data := some "a" },
        { comments := ["b"] }, { comments := ["keepalive"] }, { id := some "7" }] := by
  intro text
  have hwhole : WholeFrames text.toList := by
    have hblank : text.toList
        = "data: a\r\nretry: 5\n\r\n\n: b".toList ++ ['\n'] ++ ['\r', '\n'] := by decide
    rw [hblank]
    exact .blank (.ended _ List.mem_cons_self) (List.mem_cons_of_mem _ List.mem_cons_self)
  obtain ⟨hrest, hkept⟩ := (cut_iff_wholeFrames text).mpr hwhole "id: 7"
  have hframe : keepAliveFrame = ": keepalive\n\n" := by decide
  have htext : parseAll text = [{ data := some "a" }, { comments := ["b"] }] := by decide
  have hbehind : parseAll "id: 7" = [{ id := some "7" }] := by decide
  rw [htext, hbehind] at hrest hkept
  rw [hframe] at hkept
  exact ⟨hwhole, hrest, hkept⟩

end Callpoint.Frame
