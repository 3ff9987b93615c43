import Callpoint.Document.Build

/-!
# The responses of an operation

An operation lists a response under the status of success and one under the status of each error
that is declared or that every service may answer (`mem_names_responses_iff`).  Where an error has
the status of success, the response that is listed is that of the error (`get?_responses`).
-/

namespace Callpoint

namespace Document

/-- **An error with that status is documented.** -/
def DocumentsStatus (spec : Spec) (status : Nat) : Prop :=
  ∃ d ∈ documentedErrors spec, d.status = status

theorem documentsStatus_of_declared {spec : Spec} {d : TypedError} (h : d ∈ spec.errors) :
    DocumentsStatus spec d.status :=
  ⟨d.toDefinition, List.mem_append_left _ (List.mem_map_of_mem h), rfl⟩

/-- An error that a service answers by itself is left out only where a declared one has its
status. -/
theorem documentsStatus_of_implicit {spec : Spec} {d : Definition} (h : d ∈ implicitErrors spec) :
    DocumentsStatus spec d.status := by
  by_cases hdeclared : ∃ t ∈ spec.errors, t.status = d.status
  · obtain ⟨t, ht, hstatus⟩ := hdeclared
    rw [← hstatus]
    exact documentsStatus_of_declared ht
  · refine ⟨d, List.mem_append_right _ (List.mem_filter.mpr ⟨h, ?_⟩), rfl⟩
    rw [Bool.not_eq_true', List.any_eq_false]
    intro t ht hstatus
    obtain ⟨declared, hmem, rfl⟩ := List.mem_map.mp ht
    exact hdeclared ⟨declared, hmem, beq_iff_eq.mp hstatus⟩

theorem mem_statuses_errorGroups (spec : Spec) (status : Nat) :
    status ∈ (errorGroups spec).map Prod.fst ↔ DocumentsStatus spec status := by
  -- There is one group for each status, in ascending order.
  have hfst : (errorGroups spec).map Prod.fst
      = (distinct ((documentedErrors spec).map Definition.status)).mergeSort
          fun s t => decide (s ≤ t) := by
    unfold errorGroups
    rw [List.map_map]
    exact List.map_id _
  rw [hfst, List.mem_mergeSort, mem_distinct, List.mem_map]
  rfl

/-- A group has all documented errors of its status. -/
theorem eq_filter_of_mem_errorGroups {spec : Spec} {status : Nat} {group : List Definition}
    (h : (status, group) ∈ errorGroups spec) :
    group = (documentedErrors spec).filter fun e => e.status == status := by
  obtain ⟨s, -, heq⟩ := List.mem_map.mp h
  obtain ⟨rfl, rfl⟩ := Prod.mk.inj heq
  rfl

/-- **Which responses an operation lists.** -/
theorem mem_names_responses_iff (spec : Spec) (key : String) :
    key ∈ (responses spec).names ↔
      key = toString spec.successStatus ∨
        ∃ status, DocumentsStatus spec status ∧ key = toString status := by
  rw [responses, Assoc.mem_names_setAll]
  simp only [← mem_statuses_errorGroups, Assoc.names, List.map_cons, List.map_nil, List.map_map,
    List.mem_singleton, List.mem_map]
  refine or_congr Iff.rfl ?_
  constructor
  · rintro ⟨group, hgroup, rfl⟩
    exact ⟨group.1, ⟨group, hgroup, rfl⟩, rfl⟩
  · rintro ⟨_, ⟨group, hgroup, rfl⟩, rfl⟩
    exact ⟨group, hgroup, rfl⟩

/-- Statuses that are written alike are equal. -/
theorem eq_of_toString_eq {m n : Nat} (h : toString m = toString n) : m = n := by
  have hdigits : Nat.toDigits 10 m = Nat.toDigits 10 n := by
    rw [← Nat.toList_repr, ← Nat.toList_repr]
    exact congrArg String.toList h
  rw [← Nat.ofDigitChars_ten_toDigits (n := m), hdigits, Nat.ofDigitChars_ten_toDigits]

/-- **Which response is listed** under a status: that of its errors if there are any, else that of
success. -/
theorem get?_responses (spec : Spec) (status : Nat) :
    (¬ DocumentsStatus spec status ∧ Assoc.get? (responses spec) (toString status)
      = if status = spec.successStatus then some (successResponse spec) else none) ∨
    (DocumentsStatus spec status ∧ ∃ group, (status, group) ∈ errorGroups spec ∧
      Assoc.get? (responses spec) (toString status) = some (errorResponse group)) := by
  rw [← mem_statuses_errorGroups]
  rcases Assoc.get?_setAll [(toString spec.successStatus, successResponse spec)]
    ((errorGroups spec).map fun group => (toString group.1, errorResponse group.2))
    (toString status) with ⟨hnot, hget⟩ | ⟨response, hmem, hget⟩
  · refine Or.inl ⟨fun hmem => hnot ?_, ?_⟩
    · obtain ⟨group, hgroup, rfl⟩ := List.mem_map.mp hmem
      rw [Assoc.names, List.map_map]
      exact List.mem_map.mpr ⟨group, hgroup, rfl⟩
    · -- The only name before the errors is that of success.
      refine hget.trans ?_
      rw [Assoc.get?, List.lookup_cons]
      by_cases hstatus : status = spec.successStatus
      · rw [hstatus, beq_self_eq_true, if_pos rfl]
      · have hne : toString status ≠ toString spec.successStatus :=
          fun h => hstatus (eq_of_toString_eq h)
        rw [beq_eq_false_iff_ne.mpr hne, if_neg hstatus]
        rfl
  · obtain ⟨⟨other, group⟩, hgroup, heq⟩ := List.mem_map.mp hmem
    obtain ⟨hname, rfl⟩ := Prod.mk.inj heq
    obtain rfl := eq_of_toString_eq hname
    exact Or.inr ⟨List.mem_map_of_mem hgroup, group, hgroup, hget⟩

/-! ### Errors that a service answers by itself -/

/-- **What a service may answer without its handler,** and for which specifications. -/
inductive ServiceError (spec : Spec) : Definition → Prop
  | badRequest (h : spec.input.placeholder = false) : ServiceError spec Errors.badRequest
  | unauthorized (h : spec.access.authRequired = true) : ServiceError spec Errors.unauthorized
  | forbidden (h : spec.access.scopeGroups ≠ [] ∨ spec.access.roleGroups ≠ []) :
      ServiceError spec Errors.forbidden
  | payloadTooLarge (h : spec.input.placeholder = false) : ServiceError spec Errors.payloadTooLarge
  | validationError (h : spec.input.placeholder = false ∨ spec.pathParams ≠ []) :
      ServiceError spec Errors.validationError
  | rateLimited (h : spec.access.usageLimits ≠ []) : ServiceError spec Errors.rateLimited
  | internalError : ServiceError spec Errors.internalError

theorem ServiceError.mem_implicitErrors {spec : Spec} {d : Definition} (h : ServiceError spec d) :
    d ∈ implicitErrors spec := by
  cases h with
  | forbidden h => rcases h with h | h <;> simp [implicitErrors, h]
  | validationError h => rcases h with h | h <;> simp [implicitErrors, h]
  | internalError => simp [implicitErrors]
  | badRequest h | unauthorized h | payloadTooLarge h | rateLimited h => simp [implicitErrors, h]

theorem serviceError_of_mem_implicitErrors {spec : Spec} {d : Definition}
    (h : d ∈ implicitErrors spec) : ServiceError spec d := by
  obtain ⟨⟨applies, e⟩, hmem, hd⟩ := List.mem_filterMap.mp h
  obtain ⟨happlies, heq⟩ := Option.ite_none_right_eq_some.mp hd
  obtain rfl := Option.some.inj heq
  simp only [List.mem_cons, Prod.mk.injEq, List.not_mem_nil, or_false] at hmem
  rcases hmem with ⟨rfl, rfl⟩ | ⟨rfl, rfl⟩ | ⟨rfl, rfl⟩ | ⟨rfl, rfl⟩ | ⟨rfl, rfl⟩ | ⟨rfl, rfl⟩ |
    ⟨-, rfl⟩
  · exact .badRequest (by simpa using happlies)
  · exact .unauthorized happlies
  · exact .forbidden (by simpa using happlies)
  · exact .payloadTooLarge (by simpa using happlies)
  · exact .validationError (by simpa using happlies)
  · exact .rateLimited (by simpa using happlies)
  · exact .internalError

theorem ServiceError.documentsStatus {spec : Spec} {d : Definition} (h : ServiceError spec d) :
    DocumentsStatus spec d.status :=
  documentsStatus_of_implicit h.mem_implicitErrors

/-- **Which statuses of errors are documented:** those of declared errors and those that the service
answers by itself. -/
theorem documentsStatus_iff {spec : Spec} {status : Nat} :
    DocumentsStatus spec status ↔
      (∃ d ∈ spec.errors, d.status = status) ∨ ∃ d, ServiceError spec d ∧ d.status = status := by
  constructor
  · rintro ⟨d, hd, rfl⟩
    rcases List.mem_append.mp hd with hdeclared | himplicit
    · obtain ⟨t, ht, rfl⟩ := List.mem_map.mp hdeclared
      exact Or.inl ⟨t, ht, rfl⟩
    · exact Or.inr ⟨d, serviceError_of_mem_implicitErrors (List.mem_filter.mp himplicit).1, rfl⟩
  · rintro (⟨d, hd, rfl⟩ | ⟨d, hd, rfl⟩)
    · exact documentsStatus_of_declared hd
    · exact hd.documentsStatus

/-- The errors that a service answers by itself have statuses of errors. -/
theorem ServiceError.le_status {spec : Spec} {d : Definition} (h : ServiceError spec d) :
    400 ≤ d.status := by
  cases h <;> decide

/-- Below the statuses of errors only declared errors are documented. -/
theorem documentsStatus_iff_of_lt {spec : Spec} {status : Nat} (hlt : status < 400) :
    DocumentsStatus spec status ↔ ∃ d ∈ spec.errors, d.status = status := by
  refine documentsStatus_iff.trans (or_iff_left ?_)
  rintro ⟨d, hd, rfl⟩
  exact absurd hd.le_status (Nat.not_le.mpr hlt)

end Document

end Callpoint
