import Callpoint.Proofs.Stream.Frames
import Callpoint.Proofs.Text.Breaks

/-!
# Payloads

What the data of an event and the text of a comment do to the frame that carries them.  They are
written line by line, where only line feeds and carriage returns with line feeds end a line.

* A carriage return within such a line goes out as it is, and a reader who ends lines at carriage
  returns finds what is behind it on a line of its own.  So the frame keeps to its own lines exactly
  if whatever stands there looks like a line of the payload (`keepsTo_iff_staysBehind`).
* The line break at the end of data is not told from no line break, nor is a carriage return that
  happens to stand at the end of a line.  So data is read back with nothing but other line breaks
  exactly if it has neither (`data_read_back_iff`).
-/

namespace Callpoint

open Callpoint.Text

/-! ### What lines a payload makes -/

/-- **A frame keeps to its lines:** line breaks of any kind end lines of its own, lines that start
with the label of the payload, and the empty line at its end. -/
def KeepsTo (own : List (List Char)) (label : List Char) (frame : String) : Prop :=
  ∃ fields, linesAtBreaks frame.toList = own ++ fields ++ [[]] ∧
    ∀ line ∈ fields, label ++ [':'] <+: line

/-- **A text stays behind its label:** wherever a carriage return breaks a line of it, the text goes
on as a line with the label would. -/
def StaysBehind (label text : List Char) : Prop :=
  ∀ line ∈ lines text, ∀ part ∈ (pieces '\r' (dropReturn line)).tail, label ++ [':'] <+: part

instance (label text : List Char) : Decidable (StaysBehind label text) :=
  inferInstanceAs (Decidable (∀ line ∈ lines text,
    ∀ part ∈ (pieces '\r' (dropReturn line)).tail, label ++ [':'] <+: part))

/-- The lines of an event that are not its data. -/
def ServerEvent.ownLines (e : ServerEvent) : List (List Char) :=
  optionalField "id" e.id ++ optionalField "event" e.name

/-- What line breaks of any kind make of a text that is written under a label. -/
def brokenFields (label text : List Char) : List (List Char) :=
  if text.isEmpty then [label ++ [':']]
  else (lines text).flatMap fun line => pieces '\r' (fieldLine label (dropReturn line))

/-- Carriage returns break off all but the first part of a value. -/
theorem exists_pieces_fieldLine {label : List Char} (h : '\r' ∉ label) (value : List Char) :
    ∃ first, pieces '\r' (fieldLine label value)
      = (label ++ [':'] ++ first) :: (pieces '\r' value).tail := by
  cases hvalue : pieces '\r' value with
  | nil => exact absurd hvalue (pieces_ne_nil '\r' value)
  | cons q qs =>
    have hfront : '\r' ∉ label ++ [':', ' '] := by simp [h]
    have hline : fieldLine label value = (label ++ [':', ' ']) ++ value := by simp [fieldLine]
    refine ⟨' ' :: q, ?_⟩
    rw [hline, pieces_append_of_eq_cons hfront hvalue]
    simp

/-- To end lines at breaks of any kind is to break each line at its carriage returns. -/
theorem textParts_breaks (label text : List Char) :
    textParts (fun line => pieces '\r' (dropReturn line)) label text
      = brokenFields label text := by
  simp only [textParts, brokenFields, dropReturn_fieldLine]

/-- How a reader who ends lines at any break sees the frame of an event. -/
theorem ServerEvent.linesAtBreaks_chars {e : ServerEvent} (h : e.check = .ok ()) :
    linesAtBreaks e.chars = e.ownLines ++ brokenFields "data".toList e.data.toList ++ [[]] := by
  have hread := readsByLine_linesAtBreaks.chars h []
  rwa [List.append_nil, textParts_breaks] at hread

theorem linesAtBreaks_commentChars (text : String) :
    linesAtBreaks (commentChars text) = brokenFields [] text.toList ++ [[]] := by
  have hread := readsByLine_linesAtBreaks.commentChars text []
  rwa [List.append_nil, textParts_breaks] at hread

/-- Only what stands behind a carriage return may do without the label. -/
theorem forall_mem_brokenFields_iff {label : List Char} (h : '\r' ∉ label) (text : List Char) :
    (∀ line ∈ brokenFields label text, label ++ [':'] <+: line) ↔ StaysBehind label text := by
  unfold brokenFields StaysBehind
  split
  · next hempty =>
    rw [List.isEmpty_iff.mp hempty, List.forall_mem_singleton]
    exact iff_of_true (List.prefix_refl _) fun line hline => nomatch hline
  · rw [List.forall_mem_flatMap]
    -- The first part of each line has the label, so only the others are in question.
    refine forall₂_congr fun line _ => ?_
    obtain ⟨first, hpieces⟩ := exists_pieces_fieldLine h (dropReturn line)
    rw [hpieces, List.forall_mem_cons]
    exact and_iff_right (List.prefix_append _ first)

/-- A frame is its own lines, those of the payload, and the last one, in one way only. -/
theorem keepsTo_iff {own fields : List (List Char)} {label : List Char} {frame : String}
    (h : linesAtBreaks frame.toList = own ++ fields ++ [[]]) :
    KeepsTo own label frame ↔ ∀ line ∈ fields, label ++ [':'] <+: line := by
  constructor
  · rintro ⟨others, hothers, hall⟩
    have hsame : own ++ others = own ++ fields := by
      rw [hothers] at h
      exact List.append_cancel_right h
    rwa [List.append_cancel_left hsame] at hall
  · intro hall
    exact ⟨fields, h, hall⟩

/-- **When a payload cannot make lines of its own.**  To a reader who ends lines at line breaks of
any kind, the frame of an event with a proper identifier and name has those two lines, lines of data
and the empty line at its end, and nothing else, exactly if the data stays behind its label; and a
comment is nothing but lines of a comment exactly if its text does. -/
theorem keepsTo_iff_staysBehind {e : ServerEvent} (h : e.check = .ok ()) (comment : String) :
    (KeepsTo e.ownLines "data".toList e.text ↔ StaysBehind "data".toList e.data.toList) ∧
      (KeepsTo [] [] (commentText comment) ↔ StaysBehind [] comment.toList) := by
  have hevent : linesAtBreaks e.text.toList
      = e.ownLines ++ brokenFields "data".toList e.data.toList ++ [[]] := by
    rw [e.toList_text]
    exact ServerEvent.linesAtBreaks_chars h
  have hcomment : linesAtBreaks (commentText comment).toList
      = [] ++ brokenFields [] comment.toList ++ [[]] := by
    rw [toList_commentText]
    exact linesAtBreaks_commentChars comment
  constructor
  · rw [keepsTo_iff hevent]
    exact forall_mem_brokenFields_iff (by decide) e.data.toList
  · rw [keepsTo_iff hcomment]
    exact forall_mem_brokenFields_iff List.not_mem_nil comment.toList

/-- Carriage returns at the end of lines and in front of the label do no harm. -/
theorem keepsTo_mixed_breaks :
    let e : ServerEvent := { data := "a\r\nb\rdata: c\r", id := some "7", name := some "tick" }
    e.check = .ok () ∧ KeepsTo e.ownLines "data".toList e.text ∧
      KeepsTo [] [] (commentText "a\r: b\r\r\nc") := by
  intro e
  have hcheck : e.check = .ok () := rfl
  obtain ⟨hevent, hcomment⟩ := keepsTo_iff_staysBehind hcheck "a\r: b\r\r\nc"
  exact ⟨hcheck, hevent.mpr (by decide), hcomment.mpr (by decide)⟩

/-- **A carriage return forges a line:** data that passes for an identifier, and a comment that
passes for an event of its own. -/
theorem payload_forges_lines :
    let e : ServerEvent := { data := "a\rid: 7" }
    e.check = .ok () ∧ linesAtBreaks e.text.toList = ["data: a".toList, "id: 7".toList, []] ∧
      ¬ KeepsTo e.ownLines "data".toList e.text ∧
      linesAtBreaks (commentText "a\r\rdata: b").toList
        = [": a".toList, [], "data: b".toList, []] ∧
      ¬ KeepsTo [] [] (commentText "a\r\rdata: b") := by
  intro e
  have hevent : linesAtBreaks e.text.toList
      = e.ownLines ++ ["data: a".toList, "id: 7".toList] ++ [[]] := by
    rw [e.toList_text]
    decide
  have hcomment : linesAtBreaks (commentText "a\r\rdata: b").toList
      = [] ++ [": a".toList, [], "data: b".toList] ++ [[]] := by
    rw [toList_commentText]
    decide
  refine ⟨rfl, hevent, ?_, hcomment, ?_⟩
  · rw [keepsTo_iff hevent]
    decide
  · rw [keepsTo_iff hcomment]
    decide

/-! ### What comes back of data -/

/-- **Data that can be read back:** it does not end in a line break, and no carriage return stands
in front of a line break that has one already. -/
structure Rejoins (data : List Char) : Prop where
  feed : data.getLast? ≠ some '\n'
  carriage : data.getLast? ≠ some '\r'
  doubled : ¬ ['\r', '\r', '\n'] <:+: data

theorem intercalate_map_ofList (ls : List (List Char)) :
    "\n".intercalate (ls.map String.ofList) = String.ofList (joinPieces '\n' ls) := by
  induction ls with
  | nil => rfl
  | cons p ls ih =>
    cases ls with
    | nil => exact String.intercalate_singleton
    | cons q ls =>
      have hjoined : joinPieces '\n' (p :: q :: ls)
          = p ++ ['\n'] ++ joinPieces '\n' (q :: ls) := by simp [joinPieces]
      rw [List.map_cons, List.map_cons, String.intercalate_cons_cons, ← List.map_cons, ih, hjoined,
        String.ofList_append, String.ofList_append]

/-- What a client makes of data: its lines, joined by line feeds. -/
theorem intercalate_readLines (text : List Char) :
    "\n".intercalate (readLines text) = String.ofList (joinPieces '\n' (lineValues text)) := by
  unfold readLines
  split
  · next hempty =>
    rw [List.isEmpty_iff.mp hempty]
    rfl
  · exact intercalate_map_ofList _

/-- Of one line only a carriage return at its end is lost. -/
theorem rejoined_of_not_mem {line : List Char} (h : '\n' ∉ line) :
    joinPieces '\n' (lineValues line) = dropReturn line := by
  by_cases hnil : line = []
  · subst hnil
    rfl
  · rw [lineValues, lines_of_not_mem h hnil]
    rfl

/-- A line in front loses one carriage return to the break and one to the reader. -/
theorem rejoined_append {line rest : List Char} (h : '\n' ∉ line) (hrest : rest ≠ []) :
    joinPieces '\n' (lineValues (line ++ '\n' :: rest))
      = dropReturn (dropReturn line) ++ '\n' :: joinPieces '\n' (lineValues rest) := by
  rw [lineValues, lines_append h, List.map_cons]
  show joinPieces '\n' (_ :: lineValues rest) = _
  cases hvalues : lineValues rest with
  | nil => exact absurd hvalues (lineValues_ne_nil (by rwa [List.isEmpty_iff]))
  | cons q qs => rfl

/-- One line comes back unless it ends in a carriage return. -/
theorem rejoins_iff_of_not_mem {line : List Char} (h : '\n' ∉ line) :
    Rejoins line ↔ dropReturn line = line := by
  rw [dropReturn_eq_self_iff]
  constructor
  · exact fun hrejoins => hrejoins.carriage
  · intro hlast
    refine ⟨fun hfeed => h (List.mem_of_getLast? hfeed), hlast, fun hinside => h ?_⟩
    exact hinside.subset (by decide)

/-- A text comes back if its first line loses no second carriage return and the rest comes back. -/
theorem rejoins_append_iff {line rest : List Char} (h : '\n' ∉ line) (hrest : rest ≠ []) :
    Rejoins (line ++ '\n' :: rest) ↔
      dropReturn (dropReturn line) = dropReturn line ∧ Rejoins rest := by
  have hlast : (line ++ '\n' :: rest).getLast? = rest.getLast? := by
    rw [List.getLast?_append, List.getLast?_cons_of_ne_nil hrest,
      List.getLast?_eq_some_getLast hrest, Option.some_or]
  -- Two carriage returns and a feed are at the break or behind it, as the line has no feed.
  have hinside : ['\r', '\r', '\n'] <:+: line ++ '\n' :: rest
      ↔ ['\r', '\r'] <:+ line ∨ ['\r', '\r', '\n'] <:+: rest :=
    infix_append_cons_iff (p := ['\r', '\r']) (by decide) h rest
  rw [dropReturn_dropReturn_iff]
  constructor
  · rintro ⟨hfeed, hreturn, hdoubled⟩
    rw [hinside, not_or] at hdoubled
    rw [hlast] at hfeed hreturn
    exact ⟨hdoubled.1, hfeed, hreturn, hdoubled.2⟩
  · rintro ⟨hline, hfeed, hreturn, hdoubled⟩
    rw [← hlast] at hfeed hreturn
    exact ⟨hfeed, hreturn, fun hmem => (hinside.mp hmem).elim hline hdoubled⟩

/-- **Which texts come back** with line feeds for line breaks, and with no other change. -/
theorem rejoined_eq_iff (text : List Char) :
    joinPieces '\n' (lineValues text) = withLineFeeds text ↔ Rejoins text := by
  induction text using lineInduction with
  | last line hline =>
    rw [rejoined_of_not_mem hline, withLineFeeds_of_not_mem hline, rejoins_iff_of_not_mem hline]
  | more line rest hline ih =>
    have hdropped : '\n' ∉ dropReturn line := fun hmem => hline (mem_of_mem_dropReturn hmem)
    have htwice : '\n' ∉ dropReturn (dropReturn line) :=
      fun hmem => hdropped (mem_of_mem_dropReturn hmem)
    rw [withLineFeeds_append hline]
    by_cases hrest : rest = []
    · -- Without a line behind it, the last line feed is lost.
      subst hrest
      refine iff_of_false (fun heq => htwice ?_) fun hrejoins => hrejoins.feed (by simp)
      have hjoined : joinPieces '\n' (lineValues (line ++ ['\n']))
          = dropReturn (dropReturn line) := by
        rw [lineValues, lines_append hline]
        rfl
      rw [← hjoined, heq]
      simp
    -- Both sides are cut at the first line feed, so they agree line by line.
    · rw [rejoined_append hline hrest, rejoins_append_iff hline hrest, ← ih]
      constructor
      · exact append_cons_inj htwice hdropped
      · rintro ⟨hline, hrest⟩
        rw [hline, hrest]

/-- The frame of an event is read as one frame. -/
theorem parseAll_text {e : ServerEvent} (h : e.check = .ok ()) :
    Frame.parseAll e.text
      = [{ id := e.id
           event := e.name
           data := some (String.ofList (joinPieces '\n' (lineValues e.data.toList))) }] := by
  have hread := Frame.ofLines_event h []
  rw [List.append_nil] at hread
  unfold Frame.parseAll
  rw [e.toList_text, hread, ← intercalate_readLines]
  rfl

/-- **When data is read back.**  The frame of an event with a proper identifier and name is read as
one frame with that identifier, that name and no comments.  Its data is the data of the event with
line feeds for line breaks exactly if that does not end in a line break and has no second carriage
return at a line break. -/
theorem data_read_back_iff {e : ServerEvent} (h : e.check = .ok ()) :
    ∃ data, Frame.parseAll e.text = [{ id := e.id, event := e.name, data := some data }] ∧
      (data = String.ofList (withLineFeeds e.data.toList) ↔ Rejoins e.data.toList) := by
  refine ⟨_, parseAll_text h, ?_⟩
  rw [String.ofList_inj]
  exact rejoined_eq_iff e.data.toList

/-- Empty lines, leading blanks and line breaks of both kinds come back. -/
theorem data_read_back_lines :
    let e : ServerEvent := { data := "\n\r\n a\r\n\nb: \rc", id := some "", name := some " tick" }
    e.check = .ok () ∧
      Frame.parseAll e.text
        = [{ id := some "", event := some " tick", data := some "\n\n a\n\nb: \rc" }] := by
  intro e
  have hcheck : e.check = .ok () := rfl
  obtain ⟨data, hread, hdata⟩ := data_read_back_iff hcheck
  have hdoubled : ¬ ['\r', '\r', '\n'] <:+: e.data.toList := by simp [e, List.infix_cons_iff]
  have hrejoins : Rejoins e.data.toList := ⟨by decide, by decide, hdoubled⟩
  have hfeeds : withLineFeeds e.data.toList = "\n\n a\n\nb: \rc".toList := by decide
  rw [hdata.mpr hrejoins, hfeeds, String.ofList_toList] at hread
  exact ⟨hcheck, hread⟩

/-- **The line break at the end is lost:** data that ends in one is read as if it did not, and a
line break alone as if there were no data. -/
theorem data_loses_last_break :
    let e : ServerEvent := { data := "a\n" }
    e.check = .ok () ∧ String.ofList (withLineFeeds e.data.toList) = e.data ∧
      Frame.parseAll e.text = [{ data := some "a" }] ∧
      Frame.parseAll (ServerEvent.text { data := "\n" }) = [{ data := some "" }] := by
  intro e
  have hfeeds : withLineFeeds e.data.toList = e.data.toList := by decide
  have hbehind : joinPieces '\n' (lineValues e.data.toList) = "a".toList := by decide
  have halone : joinPieces '\n' (lineValues "\n".toList) = "".toList := by decide
  refine ⟨rfl, ?_, ?_, ?_⟩
  · rw [hfeeds, String.ofList_toList]
  · rw [parseAll_text rfl, hbehind, String.ofList_toList]
  · rw [parseAll_text rfl, halone, String.ofList_toList]

end Callpoint
