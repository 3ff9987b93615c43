import Callpoint.Proofs.Json.OneLine
import Callpoint.Proofs.Text.Lines
import Callpoint.Stream.Channel
import Callpoint.Stream.Frame

/-!
# Frames are read back

A client that reads the frames of a stream one behind the other finds one frame for each thing that
was sent (`parseAll_join`).  `Outgoing.reading` says what it finds in it: the name and the
identifier of an event as they are, and of a longer text its lines.

The reason is that no line of a frame is empty and none goes on behind a line feed, so a frame ends
where its empty line is, whatever stands behind it (`ofLines_append_blank`).  What the lines of a
frame are is said for every reading that goes line by line (`ReadsByLine.chars`).
-/

namespace Callpoint

open Callpoint.Text

/-! ### What has a frame -/

namespace ServerEvent

/-- The check either passes or names the field that it rejects. -/
theorem check_cases (e : ServerEvent) :
    e.check = .ok () ∨ ∃ field, e.check = .error (.invalidField field) := by
  unfold check
  split
  · exact Or.inr ⟨_, rfl⟩
  split
  · exact Or.inr ⟨_, rfl⟩
  · exact Or.inl rfl

/-- A value stays on its line if it has neither of the two characters that end one. -/
theorem breaksLine_eq_false_iff (value : String) :
    breaksLine value = false ↔ '\n' ∉ value.toList ∧ '\r' ∉ value.toList := by
  unfold breaksLine
  rw [List.any_eq_false]
  constructor
  · intro h
    exact ⟨fun hmem => h _ hmem (by decide), fun hmem => h _ hmem (by decide)⟩
  · rintro ⟨hfeed, hreturn⟩ c hc hbreaks
    rcases Bool.or_eq_true_iff.mp hbreaks with h | h
    · exact hfeed (beq_iff_eq.mp h ▸ hc)
    · exact hreturn (beq_iff_eq.mp h ▸ hc)

/-- An event that passes the check has its identifier and its name on one line each. -/
theorem not_breaksLine_of_check {e : ServerEvent} (h : e.check = .ok ()) :
    (∀ id, e.id = some id → breaksLine id = false) ∧
      ∀ name, e.name = some name → breaksLine name = false := by
  unfold check at h
  split at h
  · cases h
  · next hid =>
    split at h
    · cases h
    · next hname =>
      rw [Option.any_eq_true] at hid hname
      constructor
      · intro id hsome
        exact Bool.eq_false_iff.mpr fun hbreaks => hid ⟨id, hsome, hbreaks⟩
      · intro name hsome
        exact Bool.eq_false_iff.mpr fun hbreaks => hname ⟨name, hsome, hbreaks⟩

end ServerEvent

namespace Outgoing

theorem frame_event_of_ok {e : ServerEvent} (h : e.check = .ok ()) :
    (Outgoing.event e).frame = .ok e.text := by
  show (e.check >>= fun _ => pure e.text) = _
  rw [h]
  rfl

theorem frame_event_of_error {e : ServerEvent} {reason : StreamError}
    (h : e.check = .error reason) : (Outgoing.event e).frame = .error reason := by
  show (e.check >>= fun _ => pure e.text) = _
  rw [h]
  rfl

/-- **Which frame something has.** -/
inductive HasFrame : Outgoing → String → Prop
  | value {name : Option String} {v : Json} (h : (ServerEvent.ofJson name v).check = .ok ()) :
      HasFrame (.value name (.ok v)) (ServerEvent.ofJson name v).text
  | event {e : ServerEvent} (h : e.check = .ok ()) : HasFrame (.event e) e.text
  | comment {text : String} : HasFrame (.comment text) (commentText text)

/-- Only what passes the check has a frame; a comment always has one. -/
theorem hasFrame_of_frame {o : Outgoing} {text : String} (h : o.frame = .ok text) :
    o.HasFrame text := by
  -- A value is sent as an event, so both come to the same check.
  have hevent : ∀ e : ServerEvent, (Outgoing.event e).frame = .ok text →
      e.check = .ok () ∧ e.text = text := by
    intro e he
    rcases e.check_cases with hcheck | ⟨field, hcheck⟩
    · rw [frame_event_of_ok hcheck] at he
      exact ⟨hcheck, Except.ok.inj he⟩
    · rw [frame_event_of_error hcheck] at he
      cases he
  cases o with
  | value name data =>
    cases data with
    | error reason => cases h
    | ok v =>
      obtain ⟨hcheck, rfl⟩ := hevent _ h
      exact .value hcheck
  | event e =>
    obtain ⟨hcheck, rfl⟩ := hevent _ h
    exact .event hcheck
  | comment text' =>
    obtain rfl := Except.ok.inj h
    exact .comment

/-- A lost client is no reason why something has no frame. -/
theorem frame_ne_disconnected (o : Outgoing) : o.frame ≠ .error .disconnected := by
  have hevent : ∀ e : ServerEvent, (Outgoing.event e).frame ≠ .error .disconnected := by
    intro e
    rcases e.check_cases with hcheck | ⟨field, hcheck⟩
    · rw [frame_event_of_ok hcheck]
      exact fun h => nomatch h
    · rw [frame_event_of_error hcheck]
      exact fun h => nomatch h
  cases o with
  | value name data =>
    cases data with
    | error reason => exact fun h => nomatch h
    | ok v => exact hevent _
  | event e => exact hevent e
  | comment text => exact fun h => nomatch h

end Outgoing

/-! ### The lines of a frame -/

theorem ServerEvent.toList_text (e : ServerEvent) : e.text.toList = e.chars := String.toList_ofList

theorem toList_commentText (text : String) : (commentText text).toList = commentChars text :=
  String.toList_ofList

/-- A line of a frame without its end. -/
def fieldLine (label value : List Char) : List Char := label ++ ':' :: ' ' :: value

theorem labelled_eq (label value : List Char) :
    ServerEvent.labelled label value = fieldLine label value ++ ['\n'] := by
  unfold ServerEvent.labelled fieldLine
  simp

theorem not_mem_fieldLine {label value : List Char} (hlabel : '\n' ∉ label)
    (hvalue : '\n' ∉ value) : '\n' ∉ fieldLine label value := by
  unfold fieldLine
  simp [hlabel, hvalue]

/-- A carriage return at the end of a line is one at the end of its value. -/
theorem dropReturn_fieldLine (label value : List Char) :
    dropReturn (fieldLine label value) = fieldLine label (dropReturn value) := by
  unfold fieldLine
  -- Behind the colon there is always the blank, so the end of the line is never in the label.
  rw [dropReturn_append label (List.cons_ne_nil _ _),
    show ':' :: ' ' :: value = [':'] ++ ' ' :: value from rfl,
    dropReturn_append [':'] (List.cons_ne_nil _ _), dropReturn_cons_space]
  rfl

/-- The lines of a text as they come through: behind a line of their own, a carriage return at
their end belongs to the line break. -/
def lineValues (text : List Char) : List (List Char) := (lines text).map dropReturn

theorem lineValues_ne_nil {text : List Char} (h : ¬ text.isEmpty) : lineValues text ≠ [] := by
  rw [List.isEmpty_iff] at h
  exact fun hnil => lines_ne_nil h (List.map_eq_nil_iff.mp hnil)

/-- The lines of a text under one label. -/
def textFields (label text : List Char) : List (List Char) :=
  if text.isEmpty then [label ++ [':']] else (lineValues text).map (fieldLine label)

/-- The line of a field that may be missing. -/
def optionalField (label : String) (value : Option String) : List (List Char) :=
  value.toList.map fun value => fieldLine label.toList value.toList

/-- What a reading makes of the lines of a text under one label. -/
def textParts (parts : List Char → List (List Char)) (label text : List Char) :
    List (List Char) :=
  if text.isEmpty then [label ++ [':']]
  else (lines text).flatMap fun line => parts (fieldLine label line)

namespace Text.ReadsByLine

variable {read parts : List Char → List (List Char)}

/-- A labelled line is read as a whole, and the reading goes on behind it. -/
theorem labelled (h : ReadsByLine read parts) {label value : List Char} (hlabel : '\n' ∉ label)
    (hvalue : '\n' ∉ value) (rest : List Char) :
    read (ServerEvent.labelled label value ++ rest)
      = parts (fieldLine label value) ++ read rest := by
  rw [labelled_eq, List.append_assoc, List.singleton_append,
    h.front (not_mem_fieldLine hlabel hvalue)]

/-- The lines of a text are read under their label one by one. -/
theorem textLines (h : ReadsByLine read parts) {label : List Char} (hfeed : '\n' ∉ label)
    (hreturn : '\r' ∉ label) (text rest : List Char) :
    read (ServerEvent.textLines label text ++ rest)
      = textParts parts label text ++ read rest := by
  unfold ServerEvent.textLines textParts
  split
  · -- An empty text is the label and a colon, without the blank.
    have hbarefeed : '\n' ∉ label ++ [':'] := by simp [hfeed]
    have hbarereturn : '\r' ∉ label ++ [':'] := by simp [hreturn]
    have hbare : label ++ [':', '\n'] ++ rest = (label ++ [':']) ++ '\n' :: rest := by simp
    rw [hbare, h.front hbarefeed, h.whole hbarereturn]
  · -- Line by line, each of them without a line feed.
    have hlines : ∀ ls : List (List Char), (∀ l ∈ ls, '\n' ∉ l) →
        read (ls.flatMap (ServerEvent.labelled label) ++ rest)
          = (ls.flatMap fun line => parts (fieldLine label line)) ++ read rest := by
      intro ls hls
      induction ls with
      | nil => rfl
      | cons l ls ih =>
        have hl : '\n' ∉ l := hls l List.mem_cons_self
        have hrest := ih fun l hl => hls l (List.mem_cons_of_mem _ hl)
        rw [List.flatMap_cons, List.append_assoc, h.labelled hfeed hl, hrest, List.flatMap_cons,
          List.append_assoc]
    exact hlines _ fun _ hl => not_mem_of_mem_lines hl

/-- A field on one line is read as it stands, since neither its label nor its value breaks the line.
-/
theorem optionalLine (h : ReadsByLine read parts) {label : String} (hfeed : '\n' ∉ label.toList)
    (hreturn : '\r' ∉ label.toList) {value : Option String}
    (hvalue : ∀ v, value = some v → ServerEvent.breaksLine v = false) (rest : List Char) :
    read (ServerEvent.optionalLine label value ++ rest)
      = optionalField label value ++ read rest := by
  cases value with
  | none => rfl
  | some v =>
    obtain ⟨hvfeed, hvreturn⟩ := (ServerEvent.breaksLine_eq_false_iff v).mp (hvalue v rfl)
    have hline : '\r' ∉ fieldLine label.toList v.toList := by simp [fieldLine, hreturn, hvreturn]
    show read (ServerEvent.labelled label.toList v.toList ++ rest) = _
    rw [h.labelled hfeed hvfeed, h.whole hline]
    rfl

theorem emptyLine (h : ReadsByLine read parts) (rest : List Char) :
    read ('\n' :: rest) = [] :: read rest := by
  have hfront := h.front List.not_mem_nil rest
  rwa [h.whole List.not_mem_nil] at hfront

/-- **What a reading makes of the frame of an event:** its identifier and its name stand on one line
each, whatever carriage returns do to lines. -/
theorem chars (h : ReadsByLine read parts) {e : ServerEvent} (hcheck : e.check = .ok ())
    (rest : List Char) :
    read (e.chars ++ rest)
      = optionalField "id" e.id ++ optionalField "event" e.name
        ++ textParts parts "data".toList e.data.toList ++ [] :: read rest := by
  obtain ⟨hid, hname⟩ := ServerEvent.not_breaksLine_of_check hcheck
  unfold ServerEvent.chars
  simp only [List.append_assoc, List.singleton_append]
  rw [h.optionalLine (by decide) (by decide) hid, h.optionalLine (by decide) (by decide) hname,
    h.textLines (by decide) (by decide), h.emptyLine]

theorem commentChars (h : ReadsByLine read parts) (text : String) (rest : List Char) :
    read (commentChars text ++ rest) = textParts parts [] text.toList ++ [] :: read rest := by
  unfold Callpoint.commentChars
  rw [List.append_assoc, List.singleton_append, h.textLines List.not_mem_nil List.not_mem_nil,
    h.emptyLine]

end Text.ReadsByLine

/-- The lines that a client sees are the parts without the carriage return at their end. -/
theorem textParts_dropReturn (label text : List Char) :
    textParts (fun line => [dropReturn line]) label text = textFields label text := by
  unfold textParts textFields lineValues
  split
  · rfl
  · simp only [dropReturn_fieldLine]
    rw [List.map_map, List.map_eq_flatMap]
    rfl

/-- The lines of the frame of an event, up to the empty one. -/
def ServerEvent.fields (e : ServerEvent) : List (List Char) :=
  optionalField "id" e.id ++ optionalField "event" e.name ++ textFields "data".toList e.data.toList

/-- The lines of an event, then the empty one, then whatever lines come behind. -/
theorem ServerEvent.lines_chars {e : ServerEvent} (h : e.check = .ok ()) (rest : List Char) :
    lines (e.chars ++ rest) = e.fields ++ [] :: lines rest := by
  rw [readsByLine_lines.chars h, textParts_dropReturn, fields]

theorem lines_commentChars (text : String) (rest : List Char) :
    lines (commentChars text ++ rest) = textFields [] text.toList ++ [] :: lines rest := by
  rw [readsByLine_lines.commentChars, textParts_dropReturn]

/-! ### Reading lines -/

namespace Frame

/-- **Lines are read one after the other:** behind some of them there are frames that are finished
and perhaps one that has been begun, and nothing else of them matters to the lines that come. -/
theorem exists_ofLines_append (current : Option Frame) (ls : List (List Char)) :
    ∃ finished begun, ∀ more, ofLines current (ls ++ more) = finished ++ ofLines begun more := by
  induction ls generalizing current with
  | nil => exact ⟨[], current, fun more => rfl⟩
  | cons line ls ih =>
    -- An empty line finishes the current frame, any other is added to it.
    -- Induction on the lines, for every frame that may have been begun.
    by_cases hline : line.isEmpty
    · obtain ⟨finished, begun, hread⟩ := ih none
      refine ⟨current.toList ++ finished, begun, fun more => ?_⟩
      rw [List.cons_append, ofLines, if_pos hline, hread, List.append_assoc]
    · obtain ⟨finished, begun, hread⟩ := ih (some ((current.getD {}).addLine line))
      refine ⟨finished, begun, fun more => ?_⟩
      rw [List.cons_append, ofLines, if_neg hline, hread]

/-- **An empty line ends what has been begun:** the lines behind it are read as if they stood
alone. -/
theorem ofLines_append_blank (current : Option Frame) (ls more : List (List Char)) :
    ofLines current (ls ++ [] :: more) = ofLines current ls ++ ofLines none more := by
  obtain ⟨finished, begun, hread⟩ := exists_ofLines_append current ls
  have hls := hread []
  rw [List.append_nil] at hls
  rw [hread, hls, List.append_assoc]
  rfl

/-- Lines of which none is empty belong to one frame. -/
theorem ofLines_of_ne_nil {fields : List (List Char)} (hne : fields ≠ [])
    (h : ∀ l ∈ fields, l ≠ []) (current : Option Frame) :
    ofLines current fields = [fields.foldl addLine (current.getD {})] := by
  induction fields generalizing current with
  | nil => exact absurd rfl hne
  | cons l fields ih =>
    have hl : l.isEmpty = false := List.isEmpty_eq_false_iff.mpr (h l List.mem_cons_self)
    rw [ofLines, hl]
    cases fields with
    | nil => rfl
    | cons next fields =>
      exact ih (List.cons_ne_nil _ _) (fun l hl => h l (List.mem_cons_of_mem _ hl)) (some _)

/-- A line is cut at the colon of its label, since the label has none. -/
theorem labelAndValue_fieldLine {label : List Char} (h : ':' ∉ label) (value : List Char) :
    labelAndValue (fieldLine label value) = (String.ofList label, String.ofList value) := by
  unfold labelAndValue fieldLine
  rw [cutAtFirst_append h]
  rfl

theorem labelAndValue_bare {label : List Char} (h : ':' ∉ label) :
    labelAndValue (label ++ [':']) = (String.ofList label, "") := by
  unfold labelAndValue
  rw [cutAtFirst_append h]

theorem addLine_id (f : Frame) (value : List Char) :
    f.addLine (fieldLine "id".toList value) = { f with id := some (String.ofList value) } := by
  unfold addLine
  rw [labelAndValue_fieldLine (by decide), String.ofList_toList]
  rfl

theorem addLine_event (f : Frame) (value : List Char) :
    f.addLine (fieldLine "event".toList value)
      = { f with event := some (String.ofList value) } := by
  unfold addLine
  rw [labelAndValue_fieldLine (by decide), String.ofList_toList]
  rfl

/-- The line of the identifier sets it, and no line leaves it unset. -/
theorem foldl_addLine_optional_id (f : Frame) (hf : f.id = none) (id : Option String) :
    (optionalField "id" id).foldl addLine f = { f with id := id } := by
  cases id with
  | none =>
    show f = _
    rw [← hf]
  | some id =>
    show f.addLine (fieldLine "id".toList id.toList) = _
    rw [addLine_id, String.ofList_toList]

theorem foldl_addLine_optional_event (f : Frame) (hf : f.event = none) (name : Option String) :
    (optionalField "event" name).foldl addLine f = { f with event := name } := by
  cases name with
  | none =>
    show f = _
    rw [← hf]
  | some name =>
    show f.addLine (fieldLine "event".toList name.toList) = _
    rw [addLine_event, String.ofList_toList]

/-- Data is joined with a line feed to the data before it. -/
theorem addLine_data (f : Frame) (value : List Char) :
    f.addLine (fieldLine "data".toList value)
      = { f with data := some (match f.data with
          | some before => before ++ "\n" ++ String.ofList value
          | none => String.ofList value) } := by
  unfold addLine
  rw [labelAndValue_fieldLine (by decide), String.ofList_toList]
  rfl

theorem addLine_comment (f : Frame) (value : List Char) :
    f.addLine (fieldLine [] value)
      = { f with comments := f.comments ++ [String.ofList value] } := by
  unfold addLine
  rw [labelAndValue_fieldLine List.not_mem_nil]
  rfl

end Frame

/-- **The values that a reader finds in the lines of a text.** There is always one. -/
def readLines (text : List Char) : List String :=
  if text.isEmpty then [""] else (lineValues text).map String.ofList

/-- A reader finds a value even in the lines of the empty text. -/
theorem readLines_ne_nil (text : List Char) : readLines text ≠ [] := by
  unfold readLines
  split
  · exact List.cons_ne_nil _ _
  · next h => exact fun hnil => lineValues_ne_nil h (List.map_eq_nil_iff.mp hnil)

namespace Frame

/-- Further lines of data are appended one by one. -/
theorem foldl_addLine_data (values : List (List Char)) (f : Frame) (before : String)
    (hf : f.data = some before) :
    (values.map (fieldLine "data".toList)).foldl addLine f
      = { f with data := some ("\n".intercalate (before :: values.map String.ofList)) } := by
  induction values generalizing f before with
  | nil =>
    rw [List.map_nil, List.map_nil, List.foldl_nil, String.intercalate_singleton, ← hf]
  | cons value values ih =>
    -- The text so far goes into the induction as `before`.
    rw [List.map_cons, List.foldl_cons, addLine_data, hf,
      ih _ (before ++ "\n" ++ String.ofList value) rfl, List.map_cons,
      String.intercalate_cons_cons, String.intercalate_cons_append]

/-- The lines of the data are joined to one text. -/
theorem foldl_addLine_dataFields (f : Frame) (hf : f.data = none) (text : List Char) :
    (textFields "data".toList text).foldl addLine f
      = { f with data := some ("\n".intercalate (readLines text)) } := by
  unfold textFields readLines
  split
  · show addLine f ("data".toList ++ [':']) = _
    unfold addLine
    rw [labelAndValue_bare (by decide), String.ofList_toList, hf]
    rfl
  · next h =>
    cases hvalues : lineValues text with
    | nil => exact absurd hvalues (lineValues_ne_nil h)
    | cons value values =>
      -- The first line sets the data, which the others need to be joined to.
      rw [List.map_cons, List.foldl_cons, addLine_data, hf, foldl_addLine_data _ _ _ rfl]
      rfl

/-- The lines of a comment are collected and not joined. -/
theorem foldl_addLine_commentFields (f : Frame) (text : List Char) :
    (textFields [] text).foldl addLine f
      = { f with comments := f.comments ++ readLines text } := by
  have hvalues : ∀ (values : List (List Char)) (f : Frame),
      (values.map (fieldLine [])).foldl addLine f
        = { f with comments := f.comments ++ values.map String.ofList } := by
    intro values
    induction values with
    | nil =>
      intro f
      rw [List.map_nil, List.map_nil, List.foldl_nil, List.append_nil]
    | cons value values ih =>
      intro f
      rw [List.map_cons, List.foldl_cons, addLine_comment, ih, List.map_cons, List.append_assoc]
      rfl
  unfold textFields readLines
  split
  · show addLine f ([] ++ [':']) = _
    unfold addLine
    rw [labelAndValue_bare List.not_mem_nil]
    rfl
  · exact hvalues _ f

end Frame

/-! ### What a client finds -/

/-- **What a client finds in the frame of an event.** -/
def ServerEvent.reading (e : ServerEvent) : Frame where
  event := e.name
  data := some ("\n".intercalate (readLines e.data.toList))
  id := e.id

/-- **What a client finds in the frame of what is sent.** Data that could not be encoded has no
frame. -/
def Outgoing.reading : Outgoing → Frame
  | .value name (.ok v) => (ServerEvent.ofJson name v).reading
  | .value _ (.error _) => {}
  | .event e => e.reading
  | .comment text => { comments := readLines text.toList }

namespace Frame

/-- No line of a text is empty: its colon is always there. -/
theorem ne_nil_of_mem_textFields {label text l : List Char} (h : l ∈ textFields label text) :
    l ≠ [] := by
  unfold textFields at h
  split at h
  · rw [List.mem_singleton.mp h]
    exact List.append_ne_nil_of_right_ne_nil _ (List.cons_ne_nil _ _)
  · obtain ⟨line, -, rfl⟩ := List.mem_map.mp h
    exact List.append_ne_nil_of_right_ne_nil _ (List.cons_ne_nil _ _)

theorem ne_nil_of_mem_optionalField {label : String} {value : Option String} {l : List Char}
    (h : l ∈ optionalField label value) : l ≠ [] := by
  obtain ⟨v, -, rfl⟩ := List.mem_map.mp h
  exact List.append_ne_nil_of_right_ne_nil _ (List.cons_ne_nil _ _)

theorem textFields_ne_nil (label text : List Char) : textFields label text ≠ [] := by
  unfold textFields
  split
  · exact List.cons_ne_nil _ _
  · next h => exact fun hnil => lineValues_ne_nil h (List.map_eq_nil_iff.mp hnil)

/-- Lines up to an empty one make a frame, whatever comes behind it. -/
theorem ofLines_fields {fields : List (List Char)} (hne : fields ≠ []) (h : ∀ l ∈ fields, l ≠ [])
    (more : List (List Char)) :
    ofLines none (fields ++ [] :: more) = fields.foldl addLine {} :: ofLines none more := by
  rw [ofLines_append_blank, ofLines_of_ne_nil hne h]
  rfl

/-- The lines of an event are read as its frame. -/
theorem ofLines_event {e : ServerEvent} (h : e.check = .ok ()) (rest : List Char) :
    ofLines none (lines (e.chars ++ rest)) = e.reading :: ofLines none (lines rest) := by
  have hread : e.fields.foldl addLine {} = e.reading := by
    unfold ServerEvent.fields
    rw [List.foldl_append, List.foldl_append, foldl_addLine_optional_id _ rfl,
      foldl_addLine_optional_event _ rfl, foldl_addLine_dataFields _ rfl]
    rfl
  rw [ServerEvent.lines_chars h, ofLines_fields ?_ ?_, hread]
  -- The data gives a line to every event, and none of its lines can pass for the empty one.
  · exact List.append_ne_nil_of_right_ne_nil _ (textFields_ne_nil _ _)
  · intro l hl
    rcases List.mem_append.mp hl with hl | hl
    · rcases List.mem_append.mp hl with hl | hl
      · exact ne_nil_of_mem_optionalField hl
      · exact ne_nil_of_mem_optionalField hl
    · exact ne_nil_of_mem_textFields hl

theorem ofLines_comment (text : String) (rest : List Char) :
    ofLines none (lines (commentChars text ++ rest))
      = { comments := readLines text.toList } :: ofLines none (lines rest) := by
  rw [lines_commentChars, ofLines_fields (textFields_ne_nil _ _) fun l => ne_nil_of_mem_textFields,
    foldl_addLine_commentFields]
  rfl

/-- **A frame is read up to its end and no further.** -/
theorem ofLines_frame {o : Outgoing} {text : String} (h : o.frame = .ok text) (rest : List Char) :
    ofLines none (lines (text.toList ++ rest)) = o.reading :: ofLines none (lines rest) := by
  cases Outgoing.hasFrame_of_frame h with
  | value hcheck =>
    rw [ServerEvent.toList_text]
    exact ofLines_event hcheck rest
  | event hcheck =>
    rw [ServerEvent.toList_text]
    exact ofLines_event hcheck rest
  | comment =>
    rw [toList_commentText]
    exact ofLines_comment _ rest

theorem parseAll_append_of_frame {o : Outgoing} {text : String} (h : o.frame = .ok text)
    (rest : String) : parseAll (text ++ rest) = o.reading :: parseAll rest := by
  unfold parseAll
  rw [String.toList_append, ofLines_frame h]

/-- **Frames one behind the other are read one by one.** -/
theorem parseAll_join {os : List Outgoing} {texts : List String}
    (h : os.map Outgoing.frame = texts.map .ok) :
    parseAll (String.join texts) = os.map Outgoing.reading := by
  induction os generalizing texts with
  | nil =>
    rw [List.map_nil, eq_comm, List.map_eq_nil_iff] at h
    rw [h]
    rfl
  | cons o os ih =>
    cases texts with
    | nil => cases h
    | cons text texts =>
      obtain ⟨ho, hos⟩ := List.cons.inj h
      rw [String.join_cons, parseAll_append_of_frame ho, ih hos]
      rfl

end Frame

/-! ### Values -/

/-- The text of a value is one line. -/
theorem readLines_compact (v : Json) : readLines v.compact.toList = [v.compact] := by
  -- A compact text has no line break, so it is its own only line.
  have hfeed : '\n' ∉ v.compact.toList := (unbroken_compact v).not_mem (by decide)
  have hreturn : '\r' ∉ v.compact.toList := (unbroken_compact v).not_mem (by decide)
  unfold readLines
  rw [if_neg (by rw [List.isEmpty_iff]; exact compact_ne_nil v),
    lineValues, lines_of_not_mem hfeed (compact_ne_nil v), List.map_singleton,
    dropReturn_of_not_mem hreturn, List.map_singleton, String.ofList_toList]

theorem Outgoing.reading_value (name : Option String) (v : Json) :
    (Outgoing.value name (.ok v)).reading = { event := name, data := some v.compact } := by
  show (ServerEvent.ofJson name v).reading = _
  unfold ServerEvent.reading ServerEvent.ofJson
  rw [readLines_compact, String.intercalate_singleton]

/-- **What a client reads in a frame.** A value comes with its text, an event with its identifier
and its name, and a comment as lines that are nothing but comments. -/
inductive Outgoing.ReadsAs : Outgoing → Frame → Prop
  | value (name : Option String) (v : Json) :
      ReadsAs (.value name (.ok v)) { event := name, data := some v.compact }
  | event (e : ServerEvent) (data : String) :
      ReadsAs (.event e) { event := e.name, id := e.id, data := some data }
  | comment (text : String) {f : Frame} (h : f.isComment = true) (hlines : f.comments ≠ []) :
      ReadsAs (.comment text) f

/-- What is read of a frame is what its sending promised. -/
theorem Outgoing.readsAs_reading {o : Outgoing} {text : String} (h : o.frame = .ok text) :
    o.ReadsAs o.reading := by
  cases hasFrame_of_frame h with
  | @value name v hcheck => exact (reading_value name v).symm ▸ .value name v
  | @event e hcheck => exact .event e _
  | @comment text => exact .comment text rfl (readLines_ne_nil _)

end Callpoint
