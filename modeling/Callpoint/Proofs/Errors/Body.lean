import Callpoint.Probe.Reply
import Callpoint.Proofs.Json.Decode
import Callpoint.Proofs.Json.Roundtrip

/-!
# Error bodies are read back

A body is written as an object with its code, its message and its details, and a reader finds all
three again (`decodeText_toJson`), with one exception: null says the same to the reader as no
details at all (`ErrorBody.received`).  So the body of an error is read back as it was if and only if
its details are not null (`errorBody_ofError_iff`).  The details of a failed validation never are
(`errorBody_validationFailed`).
-/

namespace Callpoint

open Callpoint.Json

/-- **Details that a body can carry:** a free-form value without binary numbers, whose brackets
leave room for the bracket of the body. -/
structure Json.Portable (v : Json) : Prop where
  integral : v.Integral
  sorted : v.Sorted
  depth : v.depth < Reading.maxDepth

/-- A value, unless it is null. -/
def Json.unlessNull : Json → Option Json
  | .null => none
  | v => some v

theorem Json.unlessNull_of_ne {v : Json} (h : v ≠ .null) : v.unlessNull = some v := by
  cases v with
  | null => exact absurd rfl h
  | bool | number | string | array | object => rfl

namespace ErrorBody

/-- **A body as it is received:** null is no details. -/
def received (b : ErrorBody) : ErrorBody := { b with details := b.details.bind Json.unlessNull }

/-- A body is received as it was unless its details are null. -/
theorem received_eq_iff {b : ErrorBody} : b.received = b ↔ b.details ≠ some .null := by
  obtain ⟨code, message, details⟩ := b
  simp only [received, mk.injEq, true_and]
  cases details with
  | none => simp
  | some v =>
    by_cases hnull : v = .null
    · subst hnull
      simp [Json.unlessNull]
    · simp [Json.unlessNull_of_ne hnull, hnull]

/-! ### Decoding -/

section Decoding

variable {behind : Bytes} {depth : Nat} {code message : String}

/-- The members that a body always has. -/
def commonMembers (code message : String) : List (Except Fault String × Reading) :=
  [(.ok "code", .string (.ok code)), (.ok "message", .string (.ok message))]

theorem decoder_common :
    decoder (depth + 1) (.object behind (commonMembers code message) none)
      = .ok ⟨code, message, none⟩ := rfl

/-- A body with details is decoded by what a reader makes of them. -/
theorem decoder_details {r : Reading} {details : Option Json}
    (h : Decoder.option Decoder.value depth r = .ok details) :
    decoder (depth + 1)
        (.object behind (commonMembers code message ++ [(.ok "details", r)]) none)
      = .ok ⟨code, message, details⟩ := by
  refine Decoder.record_of_members ((some code, some message), some details) ?_ rfl
  -- Member by member: the slots of a body are filled in the order in which it was written.
  refine (Fields.members_accepted ((some code, none), none) rfl).trans ?_
  refine (Fields.members_accepted ((some code, some message), none) rfl).trans ?_
  refine (Fields.members_accepted ((some code, some message), some details) ?_).trans rfl
  show some (((Decoder.option Decoder.value depth r).map some).map fun slot =>
    ((some code, some message), slot)) = _
  rw [h]
  rfl

/-- Where a value may be missing, null is read as a missing value. -/
theorem option_value_of_tells {v : Json} (hsorted : v.Sorted) {r : Reading}
    (htells : Reading.Tells v r) (hdepth : v.depth ≤ depth) :
    Decoder.option Decoder.value depth r = .ok v.unlessNull := by
  have hjson := Reading.toJson_of_tells v hsorted htells hdepth
  by_cases hnull : v = .null
  · subst hnull
    rw [show r = .null from htells]
    rfl
  · have hvalue : Decoder.value depth r = .ok v := by
      rw [Decoder.value, hjson]
      rfl
    rw [Json.unlessNull_of_ne hnull]
    unfold Decoder.option
    split
    · -- Only null is told by null.
      rw [Reading.toJson] at hjson
      exact absurd (Except.ok.inj hjson).symm hnull
    · rw [hvalue]
      rfl

end Decoding

/-- **A body is received from the text in which it was written.** -/
theorem decodeText_toJson (b : ErrorBody) (h : ∀ v ∈ b.details, v.Portable) :
    decodeText decoder (Text.encode b.toJson.compact) = .ok b.received := by
  obtain ⟨code, message, details⟩ := b
  -- The reading tells the body, and what tells the body is decoded to it.
  have hdecode : ∀ r, Reading.Tells (toJson ⟨code, message, details⟩) r →
      decoder Reading.maxDepth r = .ok (received ⟨code, message, details⟩) := by
    intro r htells
    cases details with
    -- Without details only two members are written.
    | none =>
      obtain ⟨behind, _, rfl, _, _, rfl, rfl, _, _, rfl, rfl, rfl⟩ := htells
      exact decoder_common
    | some v =>
      obtain ⟨behind, _, rfl, _, _, rfl, rfl, _, _, rfl, rfl, r, _, rfl, htells, rfl⟩ := htells
      have hv := h v rfl
      exact decoder_details
        (option_value_of_tells hv.sorted htells (Nat.le_of_lt_succ hv.depth))
  have hintegral : (toJson ⟨code, message, details⟩).Integral := by
    cases details with
    | none => exact ⟨trivial, trivial, trivial⟩
    | some v => exact ⟨trivial, trivial, (h v rfl).integral, trivial⟩
  obtain ⟨r, hread, htells⟩ := Reading.ofBytes_compact hintegral
  rw [decodeText, hread]
  dsimp only
  rw [hdecode r htells]
  rfl

end ErrorBody

/-! ### Responses -/

/-- The body of an error is received from its response. -/
theorem Response.errorBody?_ofError (d : Definition) (h : ∀ v ∈ d.details, v.Portable) :
    (Response.ofError d).errorBody? = some d.body.received := by
  show (decodeText ErrorBody.decoder (Text.encode d.body.toJson.compact)).toOption = _
  rw [ErrorBody.decodeText_toJson d.body h]
  rfl

/-- **The body of an error is read back, and as it was if and only if its details are not null.** -/
theorem Response.errorBody_ofError_iff (d : Definition) (h : ∀ v ∈ d.details, v.Portable) :
    (Response.ofError d).errorBody? = some d.body.received
      ∧ ((Response.ofError d).errorBody? = some d.body ↔ d.details ≠ some .null) := by
  have hread := Response.errorBody?_ofError d h
  refine ⟨hread, ?_⟩
  rw [hread, Option.some.injEq, ErrorBody.received_eq_iff]
  rfl

/-- An error whose message and details hold what has to be escaped, and the greatest integer. -/
def outOfStock : Definition :=
  { code := "OUT_OF_STOCK", status := 409, message := "only 3 \"Äpfel\"\n",
    details := some (.object [("größe", .string "\\\t€"),
      ("ids", .array [.number (.int (-5)), .null]),
      ("limit", .number (.int 18446744073709551615))]) }

theorem portable_outOfStock : ∀ v ∈ outOfStock.details, v.Portable := by
  intro v hv
  obtain rfl := Option.some.inj hv
  refine ⟨?_, ?_, by decide⟩
  · simp [Integral, IntegralItems, IntegralMembers]
  · simp only [Sorted, SortedItems, SortedMembers]
    decide

theorem Response.errorBody_ofError_iff_outOfStock :
    (∀ v ∈ outOfStock.details, v.Portable)
      ∧ (Response.ofError outOfStock).errorBody? = some outOfStock.body := by
  have hread := (Response.errorBody_ofError_iff outOfStock portable_outOfStock).2
  exact ⟨portable_outOfStock, hread.mpr (by rintro ⟨⟩)⟩

/-- An error whose details are null. -/
def nullDetails : Definition :=
  { code := "X", status := 500, message := "m", details := some .null }

/-- Null was written, and nothing is read. -/
theorem Response.errorBody_nullDetails :
    (∀ v ∈ nullDetails.details, v.Portable)
      ∧ (Response.ofError nullDetails).errorBody? ≠ some nullDetails.body := by
  have hportable : ∀ v ∈ nullDetails.details, v.Portable := by
    intro v hv
    obtain rfl := Option.some.inj hv
    exact ⟨trivial, trivial, by decide⟩
  refine ⟨hportable, ?_⟩
  rw [Response.errorBody?_ofError nullDetails hportable, Ne, Option.some.injEq,
    ErrorBody.received_eq_iff]
  exact fun hne => hne rfl

/-! ### Failed validations -/

theorem Violation.toDetails_eq (v : Violation) :
    v.toDetails = .object [("field", .string v.field), ("rule", .string v.rule),
      ("value", .string v.value)] := rfl

/-- What is asked of details holds of each violation, and so of all of them. -/
theorem Violation.portable_items (violations : List Violation) :
    IntegralItems (violations.map Violation.toDetails)
      ∧ SortedItems (violations.map Violation.toDetails)
      ∧ depthItems (violations.map Violation.toDetails) ≤ 1 := by
  induction violations with
  | nil => exact ⟨trivial, trivial, Nat.zero_le 1⟩
  | cons v vs ih =>
    obtain ⟨hintegral, hsorted, hdepth⟩ := ih
    have hnames : ["field", "rule", "value"].Pairwise (· < ·) := by decide
    rw [List.map_cons, Violation.toDetails_eq]
    exact ⟨⟨⟨trivial, trivial, trivial, trivial⟩, hintegral⟩,
      ⟨⟨hnames, trivial, trivial, trivial, trivial⟩, hsorted⟩,
      Nat.max_le.mpr ⟨Nat.le_refl 1, hdepth⟩⟩

/-- The details of a failed validation can be carried, however many rules were broken. -/
theorem Errors.portable_violationDetails (violations : List Violation) :
    (Errors.violationDetails violations).Portable := by
  obtain ⟨hintegral, hsorted, hdepth⟩ := Violation.portable_items violations
  refine ⟨⟨hintegral, trivial⟩, ⟨List.pairwise_singleton _ _, hsorted, trivial⟩, ?_⟩
  show max (depthItems (violations.map Violation.toDetails) + 1) 0 + 1 < 127
  omega

/-- **The rules that were broken are read back.** -/
theorem Response.errorBody_validationFailed (violations : List Violation) :
    (Response.ofError (Errors.validationFailed violations)).errorBody?
      = some (Errors.validationFailed violations).body := by
  have hportable : ∀ v ∈ (Errors.validationFailed violations).details, v.Portable := by
    intro v hv
    obtain rfl := Option.some.inj hv
    exact Errors.portable_violationDetails violations
  rw [Response.errorBody?_ofError _ hportable, Option.some.injEq, ErrorBody.received_eq_iff]
  rintro ⟨⟩

end Callpoint
