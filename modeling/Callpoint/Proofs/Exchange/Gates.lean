import Callpoint.Proofs.Exchange.Course

/-!
# What the gates decide

Each gate is followed by what it comes to in each of its cases, so that nothing below has to look
into a gate again.  No gate calls the handler (`quiet_passGates`).
-/

namespace Callpoint

open Callpoint.Http

namespace Params

theorem contains_iff (p : Params) (name : String) :
    p.contains name = true ↔ name ∈ p.map Prod.fst := by
  induction p with
  | nil => simp [contains, get?]
  | cons pair p ih =>
    obtain ⟨n, v⟩ := pair
    rw [contains, get?] at ih ⊢
    by_cases h : name = n
    · subst h
      simp
    -- Another name in front is skipped by the lookup.
    · rw [List.lookup_cons, beq_eq_false_iff_ne.mpr h, List.map_cons, List.mem_cons]
      simp only [h, false_or]
      exact ih

end Params

namespace Service

variable {α β : Type} {s : Service} {id : RequestId} {spec : Spec} {input : InputType α}
  {r : Request}

/-- A rejection is not a call. -/
theorem quiet_reject (d : Definition) : (reject id d : Course α Response β).Quiet := rfl

/-! ### Parameters -/

theorem missingParam?_eq_none_iff (spec : Spec) (matched : Params) :
    missingParam? spec matched = none ↔ ∀ name ∈ spec.pathParams, name ∈ matched.map Prod.fst := by
  rw [missingParam?, List.find?_eq_none]
  simp only [Bool.not_eq_true', Bool.not_eq_false, Params.contains_iff]

/-- The missing parameter is the first one of the path that is not matched. -/
theorem missingParam?_eq_some_iff (spec : Spec) (matched : Params) (name : String) :
    missingParam? spec matched = some name ↔
      name ∉ matched.map Prod.fst ∧ ∃ before after, spec.pathParams = before ++ name :: after ∧
        ∀ n ∈ before, n ∈ matched.map Prod.fst := by
  rw [missingParam?, List.find?_eq_some_iff_append]
  simp only [Bool.not_eq_true', ← Bool.not_eq_true, Bool.not_not, Params.contains_iff]

/-- The parameters of the path come first, and then those of the query. -/
theorem outcome_bindParams_none (h : missingParam? spec r.params = none) :
    (bindParams id spec r : Course α Response Params).outcome
      = .ok (r.params ++ boundQuery spec r.queryPairs) := by
  unfold bindParams
  rw [h]
  rfl

/-- A request without a parameter of its path is rejected with the name of it. -/
theorem outcome_bindParams_some {name : String} (h : missingParam? spec r.params = some name) :
    (bindParams id spec r : Course α Response Params).outcome
      = .error ((Response.ofError (missingParamError name)).withRequestId id) := by
  unfold bindParams
  rw [h]
  rfl

theorem quiet_bindParams : (bindParams id spec r : Course α Response Params).Quiet := by
  unfold bindParams
  cases missingParam? spec r.params with
  | some name => exact .after_emit _ (quiet_reject _)
  | none => exact .after_emit _ (Course.quiet_pure _)

/-! ### Bodies -/

theorem outcome_readBody_ok {bytes : Bytes} (h : r.body.read s.policy.bodyLimit = .ok bytes) :
    (s.readBody id r : Course α Response Bytes).outcome = .ok bytes := by
  unfold readBody
  rw [h]
  rfl

/-- A body beyond the limit is rejected with the limit. -/
theorem outcome_readBody_tooLarge {limit : Nat}
    (h : r.body.read s.policy.bodyLimit = .error (.tooLarge limit)) :
    (s.readBody id r : Course α Response Bytes).outcome
      = .error ((Response.ofError (tooLargeError limit)).withRequestId id) := by
  unfold readBody
  rw [h]
  rfl

/-- A body that broke off is rejected, and the caller is not told the reason. -/
theorem outcome_readBody_unreadable {reason : String}
    (h : r.body.read s.policy.bodyLimit = .error (.unreadable reason)) :
    (s.readBody id r : Course α Response Bytes).outcome
      = .error ((Response.ofError unreadableError).withRequestId id) := by
  unfold readBody
  rw [h]
  rfl

theorem quiet_readBody : (s.readBody id r : Course α Response Bytes).Quiet := by
  unfold readBody
  split
  · exact .after_emit _ (Course.quiet_pure _)
  · exact .after_emit _ (quiet_reject _)
  · exact .after_emit _ (quiet_reject _)

/-! ### Decoding and validation -/

/-- Bytes are decoded if they are a value, and if the input can be made of it. -/
theorem decodeBytes_of_decoded {bytes : Bytes} {value : Json} {x : α}
    (hparse : Json.parse bytes = .ok value) (hdecode : input.decode value = .ok x) :
    decodeBytes input bytes = .ok (value, x) := by
  unfold decodeBytes
  rw [hparse]
  -- What is left is the second step of the `do` block.
  show (input.decode value >>= fun x => pure (value, x)) = .ok (value, x)
  rw [hdecode]
  rfl

/-- Bytes that are no value are told with their place. -/
theorem decodeBytes_of_malformed {bytes : Bytes} {fault : Json.Fault}
    (h : Json.parse bytes = .error fault) :
    decodeBytes input bytes = .error (fault.describe bytes) := by
  unfold decodeBytes
  rw [h]

/-- A value that is no input is told with the reason that the input gives. -/
theorem decodeBytes_of_mistyped {bytes : Bytes} {value : Json} {reason : String}
    (hparse : Json.parse bytes = .ok value) (hdecode : input.decode value = .error reason) :
    decodeBytes input bytes = .error reason := by
  unfold decodeBytes
  rw [hparse]
  show (input.decode value >>= fun x => pure (value, x)) = .error reason
  rw [hdecode]
  rfl

/-- An empty body is the empty input, which no validator is shown. -/
theorem outcome_decodeBody_nil :
    (s.decodeBody id spec input []).outcome = .ok input.empty := rfl

/-- A body that cannot be decoded is rejected before it is validated. -/
theorem outcome_decodeBody_error {bytes : Bytes} {reason : String} (hne : bytes ≠ [])
    (h : decodeBytes input bytes = .error reason) :
    (s.decodeBody id spec input bytes).outcome
      = .error ((Response.ofError (undecodableError reason)).withRequestId id) := by
  unfold decodeBody
  rw [List.isEmpty_eq_false_iff.mpr hne, h]
  rfl

/-- A value that breaks rules is rejected with all of them. -/
theorem outcome_decodeBody_invalid {bytes : Bytes} {value : Json} {x : α}
    {violations : List Violation} (hne : bytes ≠ []) (h : decodeBytes input bytes = .ok (value, x))
    (hrules : s.validator spec.input.name value = .error violations) :
    (s.decodeBody id spec input bytes).outcome
      = .error ((Response.ofError (Errors.validationFailed violations)).withRequestId id) := by
  unfold decodeBody
  rw [List.isEmpty_eq_false_iff.mpr hne, h]
  simp only [Bool.false_eq_true, ↓reduceIte, Course.outcome_emit_bind,
    Course.outcome_validate_bind, hrules]
  rfl

theorem outcome_decodeBody_ok {bytes : Bytes} {value : Json} {x : α} (hne : bytes ≠ [])
    (h : decodeBytes input bytes = .ok (value, x))
    (hrules : s.validator spec.input.name value = .ok ()) :
    (s.decodeBody id spec input bytes).outcome = .ok x := by
  unfold decodeBody
  rw [List.isEmpty_eq_false_iff.mpr hne, h]
  simp only [Bool.false_eq_true, ↓reduceIte, Course.outcome_emit_bind,
    Course.outcome_validate_bind, hrules]
  rfl

theorem quiet_decodeBody (bytes : Bytes) : (s.decodeBody id spec input bytes).Quiet := by
  unfold decodeBody
  split
  · exact .after_emit _ (Course.quiet_pure _)
  · split
    · exact .after_emit _ (quiet_reject _)
    · -- Showing the value to the validator is no call either.
      refine .after_emit _ (.after_validate _ _ _ fun verdict => ?_)
      cases verdict with
      | error violations => exact .after_emit _ (quiet_reject _)
      | ok _ => exact .after_emit _ (Course.quiet_pure _)

theorem quiet_readInput : (s.readInput id spec input r).Quiet := by
  unfold readInput
  split
  · exact Course.quiet_pure _
  · exact quiet_readBody.bind fun bytes => quiet_decodeBody bytes

/-! ### Access -/

theorem outcome_checkAccess_ok {caller : Identity} (h : authorize spec.access caller = .ok ()) :
    (checkAccess id spec caller : Course α Response Unit).outcome = .ok () := by
  unfold checkAccess
  rw [h]
  rfl

theorem outcome_checkAccess_error {caller : Identity} {denial : Denial}
    (h : authorize spec.access caller = .error denial) :
    (checkAccess id spec caller : Course α Response Unit).outcome
      = .error (denialResponse id denial) := by
  unfold checkAccess
  rw [h]
  rfl

theorem quiet_checkAccess (caller : Identity) :
    (checkAccess id spec caller : Course α Response Unit).Quiet := by
  unfold checkAccess
  refine .after_emit _ ?_
  cases authorize spec.access caller with
  | ok _ => exact Course.quiet_pure _
  | error denial => exact .after_emit _ (.after_emit _ (Course.quiet_stop _))

/-! ### All gates -/

/-- **No gate calls the handler.** -/
theorem quiet_passGates : (s.passGates spec input r).Quiet := by
  unfold passGates
  exact quiet_bindParams.bind fun _ => quiet_readInput.bind fun _ =>
    (quiet_checkAccess _).bind fun _ => Course.quiet_pure _

end Service

end Callpoint
