import Callpoint.Json.Decode
import Callpoint.Proofs.Results

/-!
# What decoders yield

A decoder yields a property if every value that it makes has it.  For records this is shown field by
field: there is an invariant of what was read of the fields so far, which holds at the start, is
kept by each member that is accepted, and says enough at the end (`Fields.Yields`).  `yields_field`,
`yields_map` and `yields_seq` carry it through the ways to build fields, and `yields_record` from
the fields to the record, whether this is read from an object or by position.

What one record makes of one object is told member by member: one that is accepted is put into the
slots (`members_accepted`), and what comes of the slots at the end comes of the record
(`record_of_members`).
-/

namespace Callpoint.Json

variable {α β : Type} {P : α → Prop} {Q : β → Prop}

/-- **Whatever a decoder makes has a property.** -/
def Decoder.Yields (d : Decoder α) (P : α → Prop) : Prop :=
  ∀ depth r, Callpoint.Yields (d depth r) P

/-- **Whatever is made of the fields of a record has a property.** -/
def Fields.Yields (fs : Fields α) (P : α → Prop) : Prop :=
  ∃ Kept : fs.Slots → Prop, Kept fs.start ∧
    (∀ depth name r slots out, Kept slots → fs.accept depth name r slots = some out →
      Callpoint.Yields out Kept) ∧
    (∀ slots, Kept slots → Callpoint.Yields (fs.finish slots) P) ∧
    ∀ depth expected p, Callpoint.Yields (fs.place depth expected p) fun out => P out.1

namespace Fields

theorem yields_of_forall (fs : Fields α) (h : ∀ a, P a) : fs.Yields P :=
  ⟨fun _ => True, trivial, fun _ _ _ _ _ _ _ => Callpoint.yields_any _, fun _ _ a _ => h a,
    fun _ _ _ out _ => h out.1⟩

theorem yields_any (fs : Fields α) : fs.Yields fun _ => True := fs.yields_of_forall fun _ => trivial

/-- A field has what its decoder yields, if the values that stand for a missing one have it too. -/
theorem yields_field {name : String} {d : Decoder α} {absent absentPlace : Option α}
    (hd : d.Yields P) (habsent : ∀ a, absent = some a → P a)
    (hplace : ∀ a, absentPlace = some a → P a) : (field name d absent absentPlace).Yields P := by
  refine ⟨fun slot => ∀ a, slot = some a → P a, fun _ h => (nomatch h), ?_, ?_, ?_⟩
  · rintro depth n r slot out - haccept
    obtain ⟨-, hout⟩ := Option.ite_none_right_eq_some.mp haccept
    obtain rfl := Option.some.inj hout
    cases slot with
    | some _ => exact yields_error _
    | none => exact Callpoint.Yields.map ((hd depth r).imp fun a ha b hb => Option.some.inj hb ▸ ha)
  · intro slot hslot
    cases slot with
    | some a => exact yields_ok (hslot a rfl)
    | none =>
      cases absent with
      | some a => exact yields_ok (habsent a rfl)
      | none => exact yields_error _
  · rintro depth expected ⟨taken, items, stop⟩
    cases items with
    | cons r rest =>
      exact Callpoint.Yields.map (f := fun a => (a, Places.mk (taken + 1) rest stop)) (hd depth r)
    | nil =>
      cases stop with
      | some f => exact yields_error _
      | none =>
        cases absentPlace with
        | some a => exact yields_ok (hplace a rfl)
        | none => exact yields_error _

theorem yields_map {f : α → β} {x : Fields α} (h : x.Yields fun a => Q (f a)) :
    (map f x).Yields Q := by
  obtain ⟨Kept, hstart, haccept, hfinish, hplace⟩ := h
  refine ⟨Kept, hstart, haccept, fun slots hslots => (hfinish slots hslots).map, ?_⟩
  intro depth expected p
  exact Callpoint.Yields.map (f := fun out : α × Places => (f out.1, out.2))
    (hplace depth expected p)

theorem yields_seq {f : Fields (α → β)} {x : Fields α} (hf : f.Yields fun g => ∀ a, P a → Q (g a))
    (hx : x.Yields P) : (seq f x).Yields Q := by
  obtain ⟨KeptF, hstartF, hacceptF, hfinishF, hplaceF⟩ := hf
  obtain ⟨KeptX, hstartX, hacceptX, hfinishX, hplaceX⟩ := hx
  refine ⟨fun slots => KeptF slots.1 ∧ KeptX slots.2, ⟨hstartF, hstartX⟩, ?_, ?_, ?_⟩
  · rintro depth name r slots out ⟨hslotsF, hslotsX⟩ haccept
    simp only [seq] at haccept
    -- A member that the first fields accept is not offered to the others.
    split at haccept
    · next outF hout =>
      obtain rfl := Option.some.inj haccept
      exact ((hacceptF _ _ _ _ _ hslotsF hout).imp fun _ h => ⟨h, hslotsX⟩).map
    · obtain ⟨outX, hout, rfl⟩ := Option.map_eq_some_iff.mp haccept
      exact ((hacceptX _ _ _ _ _ hslotsX hout).imp fun _ h => ⟨hslotsF, h⟩).map
  · intro slots hslots
    exact (hfinishF _ hslots.1).bind fun g hg => (hfinishX _ hslots.2).bind fun a ha =>
      yields_ok (hg a ha)
  · intro depth expected p
    exact (hplaceF depth expected p).bind fun g hg => (hplaceX depth expected g.2).bind fun a ha =>
      yields_ok (hg a.1 ha)

/-- What holds at the start and is kept by each field holds after all members. -/
theorem yields_members {fs : Fields α} {Kept : fs.Slots → Prop}
    (haccept : ∀ depth name r slots out, Kept slots → fs.accept depth name r slots = some out →
      Callpoint.Yields out Kept) (closedRecord : Bool) (depth : Nat)
    (members : List (Except Fault String × Reading)) {slots : fs.Slots} (hslots : Kept slots) :
    Callpoint.Yields (fs.members closedRecord depth members slots) Kept := by
  induction members generalizing slots with
  | nil => exact yields_ok hslots
  | cons member rest ih =>
    obtain ⟨name, r⟩ := member
    refine (Callpoint.yields_any (Decoder.lift name)).bind fun name _ => ?_
    split
    · next out hout => exact (haccept _ _ _ _ _ hslots hout).bind fun _ h => ih h
    · split
      · exact yields_error _
      · split
        · exact yields_error _
        · exact ih hslots

/-- A member that is accepted is put into the slots. -/
theorem members_accepted {fs : Fields α} {closedRecord : Bool} {depth : Nat} {name : String}
    {r : Reading} {rest : List (Except Fault String × Reading)} {slots : fs.Slots}
    (more : fs.Slots) (h : fs.accept depth name r slots = some (.ok more)) :
    fs.members closedRecord depth ((.ok name, r) :: rest) slots
      = fs.members closedRecord depth rest more := by
  rw [members, Decoder.lift, ok_bind, h]
  rfl

end Fields

namespace Decoder

theorem record_of_members {fs : Fields α} {closedRecord : Bool} {depth : Nat} {name : String}
    {behind : List UInt8} {members : List (Except Fault String × Reading)} {a : α}
    (slots : fs.Slots) (hmembers : fs.members closedRecord depth members fs.start = .ok slots)
    (hfinish : fs.finish slots = .ok a) :
    record name closedRecord fs (depth + 1) (.object behind members none) = .ok a := by
  rw [record, opened, hmembers]
  exact hfinish

theorem yields_opened {depth : Nat} {behind : List UInt8} {body : Nat → Except DecodeError α}
    (h : ∀ depth, Callpoint.Yields (body depth) P) :
    Callpoint.Yields (opened depth behind body) P := by
  cases depth with
  | zero => exact yields_error _
  | succ depth => exact h depth

theorem yields_unexpected (expected : String) (r : Reading) :
    Callpoint.Yields (unexpected expected r : Except DecodeError α) P := by
  cases r with
  | number n => exact (Callpoint.yields_any (lift n)).bind fun _ _ => yields_error _
  | string s => exact (Callpoint.yields_any (lift s)).bind fun _ _ => yields_error _
  | broken | null | bool | array | object => exact yields_error _

/-- **A record has what its fields yield.** -/
theorem yields_record {name : String} {closedRecord : Bool} {fs : Fields α} (h : fs.Yields P) :
    (record name closedRecord fs).Yields P := by
  obtain ⟨Kept, hstart, haccept, hfinish, hplace⟩ := h
  intro depth r
  unfold record
  split
  · next behind members stop =>
    refine yields_opened fun depth => ?_
    refine (Fields.yields_members haccept closedRecord depth members hstart).bind ?_
    exact fun slots hslots => (Callpoint.yields_any _).bind fun _ _ => hfinish slots hslots
  · next behind items stop =>
    refine yields_opened fun depth => (hplace depth _ _).bind fun out hout => ?_
    show Callpoint.Yields (ite _ _ _) P
    split
    · exact (Callpoint.yields_any _).bind fun _ _ => yields_ok hout
    · exact yields_error _
  · exact yields_unexpected _ _

end Decoder

theorem yields_decodeText {d : Decoder α} (h : d.Yields P) (bytes : List UInt8) :
    Callpoint.Yields (decodeText d bytes) P :=
  ((h _ _).mapError _).bind fun _ ha => (Callpoint.yields_any _).bind fun _ _ => yields_ok ha

end Callpoint.Json
