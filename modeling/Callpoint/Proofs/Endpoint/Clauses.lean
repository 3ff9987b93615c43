import Callpoint.Endpoint.Spec
import Callpoint.Proofs.Access

/-!
# What clauses add up to

Each clause adds its own requirements to those before it (`Spec.access_build`) and its own errors,
as far as their codes are new (`Spec.errors_build`).  What holds of every specification that is
built from clauses follows from these two (`Spec.build_adds_up`).
-/

namespace Callpoint

/-! ### One clause -/

namespace Clause

/-- **Clauses that ask something of the caller.** -/
inductive RequiresCaller : Clause → Prop
  | requireAuth : RequiresCaller .requireAuth
  | scopes (group : List String) : RequiresCaller (.scopes group)
  | roles (group : List String) : RequiresCaller (.roles group)
  | usageLimit (limit : UsageLimit) : RequiresCaller (.usageLimit limit)

/-- What a clause asks of the caller. -/
def access : Clause → Requirements
  | .requireAuth => { authRequired := true }
  | .scopes group => { authRequired := true, scopeGroups := Spec.addGroup [] group }
  | .roles group => { authRequired := true, roleGroups := Spec.addGroup [] group }
  | .usageLimit limit => { authRequired := true, usageLimits := [limit] }
  | _ => {}

/-- The errors that a clause declares. -/
def declared : Clause → List TypedError
  | .error e => [e]
  | .errors es => es
  | _ => []

/-- What clauses ask of the caller together. -/
def requirements (clauses : List Clause) : Requirements where
  authRequired := clauses.any fun c => c.access.authRequired
  scopeGroups := clauses.flatMap fun c => c.access.scopeGroups
  roleGroups := clauses.flatMap fun c => c.access.roleGroups
  usageLimits := clauses.flatMap fun c => c.access.usageLimits

end Clause

namespace Spec

variable {groups : List (List String)} {group member : List String}

/-- A group is added behind the others, or not at all if it is empty. -/
theorem addGroup_eq_append : addGroup groups group = groups ++ addGroup [] group := by
  unfold addGroup
  split <;> simp

theorem ne_nil_of_mem_addGroup (h : group ∈ addGroup [] member) : group ≠ [] := by
  unfold addGroup at h
  split at h
  · cases h
  · next hmember =>
    obtain rfl := List.mem_singleton.mp h
    simpa using hmember

end Spec

namespace Clause

variable {c : Clause} {clauses more : List Clause} {group : List String}

/-- The clauses that ask something are those that want the caller to be known. -/
theorem authRequired_access_iff : c.access.authRequired = true ↔ c.RequiresCaller := by
  constructor
  · intro h
    cases c with
    | requireAuth => exact .requireAuth
    | scopes group => exact .scopes group
    | roles group => exact .roles group
    | usageLimit limit => exact .usageLimit limit
    | _ => cases h
  · intro h
    cases h <;> rfl

theorem ne_nil_of_mem_scopeGroups (h : group ∈ c.access.scopeGroups) : group ≠ [] := by
  cases c with
  | scopes members => exact Spec.ne_nil_of_mem_addGroup h
  | _ => cases h

theorem ne_nil_of_mem_roleGroups (h : group ∈ c.access.roleGroups) : group ≠ [] := by
  cases c with
  | roles members => exact Spec.ne_nil_of_mem_addGroup h
  | _ => cases h

theorem requirements_append :
    requirements (clauses ++ more) = (requirements clauses).add (requirements more) := by
  simp [requirements, Requirements.add]

end Clause

/-! ### Errors by code -/

/-- An error added behind others, unless its code is there. -/
def keepFirst (errors : List TypedError) (e : TypedError) : List TypedError :=
  if errors.any (·.hasCode e.code) then errors else errors ++ [e]

section KeepFirst

variable {errors more : List TypedError} {e : TypedError}

/-- Of the codes each is kept where it came first. -/
theorem codes_keepFirst :
    (keepFirst errors e).map (·.code) = addDistinct (errors.map (·.code)) e.code := by
  have hany : errors.any (·.hasCode e.code) = true ↔ e.code ∈ errors.map (·.code) := by
    simp [Definition.hasCode]
  unfold keepFirst addDistinct
  by_cases hold : e.code ∈ errors.map (·.code)
  · rw [if_pos (hany.mpr hold), if_pos hold]
  · rw [if_neg (mt hany.mp hold), if_neg hold, List.map_append, List.map_singleton]

theorem codes_foldl_keepFirst :
    (more.foldl keepFirst errors).map (·.code)
      = (more.map (·.code)).foldl addDistinct (errors.map (·.code)) := by
  induction more generalizing errors with
  | nil => rfl
  | cons e more ih => rw [List.foldl_cons, ih, codes_keepFirst, List.map_cons, List.foldl_cons]

/-- An error that is left out would not be found: the one before it with its code is. -/
theorem find?_keepFirst (code : String) :
    (keepFirst errors e).find? (·.hasCode code) = (errors ++ [e]).find? (·.hasCode code) := by
  unfold keepFirst
  split
  · next hold =>
    rw [List.find?_append]
    -- If none is found under this code, the error that is left out has another one.
    cases hfind : errors.find? (·.hasCode code) with
    | some d => rfl
    | none =>
      obtain ⟨d, hd, hcode⟩ := List.any_eq_true.mp hold
      have hd' := List.find?_eq_none.mp hfind d hd
      have hne : e.code ≠ code := by
        rintro rfl
        exact hd' hcode
      simp [Definition.hasCode, hne]
  · rfl

/-- Errors that are left out are not missed by any search. -/
theorem find?_foldl_keepFirst (code : String) :
    (more.foldl keepFirst errors).find? (·.hasCode code)
      = (errors ++ more).find? (·.hasCode code) := by
  induction more generalizing errors with
  | nil => rw [List.append_nil, List.foldl_nil]
  | cons e more ih =>
    rw [List.foldl_cons, ih, List.find?_append, find?_keepFirst, ← List.find?_append,
      List.append_assoc, List.singleton_append]

end KeepFirst

/-! ### All clauses -/

namespace Spec

/-- To declare an error is to keep it if it is the first of its code. -/
theorem errors_declare (s : Spec) (e : TypedError) :
    (s.declare e).errors = keepFirst s.errors e := by
  unfold declare declares declaresCode keepFirst
  split <;> rfl

theorem access_declare (s : Spec) (e : TypedError) : (s.declare e).access = s.access := by
  unfold declare
  split <;> rfl

theorem errors_foldl_declare (s : Spec) (es : List TypedError) :
    (es.foldl declare s).errors = es.foldl keepFirst s.errors := by
  induction es generalizing s with
  | nil => rfl
  | cons e es ih => rw [List.foldl_cons, ih, errors_declare, List.foldl_cons]

theorem access_foldl_declare (s : Spec) (es : List TypedError) :
    (es.foldl declare s).access = s.access := by
  induction es generalizing s with
  | nil => rfl
  | cons e es ih => rw [List.foldl_cons, ih, access_declare]

/-- **What a clause does to the requirements.** -/
theorem access_apply (s : Spec) (c : Clause) : (s.apply c).access = s.access.add c.access := by
  cases c with
  -- Declaring errors goes through a fold, which keeps the requirements.
  | error e => exact (access_declare s e).trans s.access.add_empty.symm
  | errors es => exact (access_foldl_declare s es).trans s.access.add_empty.symm
  | requireAuth => simp [apply, require, Clause.access, Requirements.add]
  | scopes group =>
    simp only [apply, require, Clause.access, Requirements.add, Bool.or_true, List.append_nil]
    rw [addGroup_eq_append]
  | roles group =>
    simp only [apply, require, Clause.access, Requirements.add, Bool.or_true, List.append_nil]
    rw [addGroup_eq_append]
  | usageLimit limit => simp [apply, require, Clause.access, Requirements.add]
  | _ => exact s.access.add_empty.symm

/-- **What a clause does to the errors.** -/
theorem errors_apply (s : Spec) (c : Clause) :
    (s.apply c).errors = c.declared.foldl keepFirst s.errors := by
  cases c with
  | error e => exact errors_declare s e
  | errors es => exact errors_foldl_declare s es
  | _ => rfl

theorem access_foldl_apply (s : Spec) (clauses : List Clause) :
    (clauses.foldl apply s).access = s.access.add (Clause.requirements clauses) := by
  induction clauses generalizing s with
  | nil => exact s.access.add_empty.symm
  | cons c clauses ih =>
    rw [List.foldl_cons, ih, access_apply, Requirements.add_assoc]
    rfl

theorem errors_foldl_apply (s : Spec) (clauses : List Clause) :
    (clauses.foldl apply s).errors = (clauses.flatMap Clause.declared).foldl keepFirst s.errors := by
  induction clauses generalizing s with
  | nil => rfl
  | cons c clauses ih =>
    rw [List.foldl_cons, ih, errors_apply, List.flatMap_cons, List.foldl_append]

variable {name method path : String} {clauses : List Clause}

/-- What is asked is the sum of what the clauses ask. -/
theorem access_build : (build name method path clauses).access = Clause.requirements clauses := by
  unfold build
  rw [access_foldl_apply]
  simp [Requirements.add]

/-- The errors are those of the clauses, the first of each code. -/
theorem errors_build :
    (build name method path clauses).errors
      = (clauses.flatMap Clause.declared).foldl keepFirst [] :=
  errors_foldl_apply _ clauses

/-- **What holds of every specification that is built from clauses.**  A group in it has a member, a
caller must be known exactly if some clause asks something of the caller, and under each code the
first error declared with it is kept.  No clause that is added makes up for what a caller lacks. -/
theorem build_adds_up (name method path : String) (clauses : List Clause) :
    let spec := build name method path clauses
    (∀ group ∈ spec.access.scopeGroups, group ≠ []) ∧
    (∀ group ∈ spec.access.roleGroups, group ≠ []) ∧
    (spec.access.authRequired = true ↔ ∃ c ∈ clauses, c.RequiresCaller) ∧
    (spec.errors.map (·.code)).Nodup ∧
    (∀ code, spec.errors.find? (·.hasCode code)
      = (clauses.flatMap Clause.declared).find? (·.hasCode code)) ∧
    ∀ (more : List Clause) (caller : Identity) (denial : Denial),
      authorize spec.access caller = .error denial →
        authorize (build name method path (clauses ++ more)).access caller ≠ .ok () := by
  intro spec
  have haccess : spec.access = Clause.requirements clauses := access_build
  have herrors : spec.errors = _ := errors_build
  refine ⟨fun group hgroup => ?_, fun group hgroup => ?_, ?_, ?_, fun code => ?_, ?_⟩
  · rw [haccess] at hgroup
    obtain ⟨c, -, hc⟩ := List.mem_flatMap.mp hgroup
    exact Clause.ne_nil_of_mem_scopeGroups hc
  · rw [haccess] at hgroup
    obtain ⟨c, -, hc⟩ := List.mem_flatMap.mp hgroup
    exact Clause.ne_nil_of_mem_roleGroups hc
  · rw [haccess]
    simp only [Clause.requirements, List.any_eq_true, Clause.authRequired_access_iff]
  · rw [herrors, codes_foldl_keepFirst]
    exact nodup_distinct _
  · rw [herrors]
    exact find?_foldl_keepFirst code
  · -- What is asked in the end includes what was asked before `more`.
    intro more caller denial hdenied hallowed
    rw [access_build, Clause.requirements_append] at hallowed
    have hshort := Requirements.authorize_eq_ok_of_add hallowed
    rw [← haccess, hdenied] at hshort
    cases hshort

/-- A caller without the scope that is asked for, before and after an empty group of roles. -/
theorem build_adds_up_group :
    let caller : Identity := { id := "u-1", hasRole := fun _ => true }
    let access (clauses : List Clause) := (build "op" "GET" "/op" clauses).access
    authorize (access [.scopes ["orders:read"]]) caller = .error (.missingScope ["orders:read"]) ∧
      authorize (access ([.scopes ["orders:read"]] ++ [.roles []])) caller ≠ .ok () := by
  intro caller access
  have hdenied : authorize (access [.scopes ["orders:read"]]) caller
      = .error (.missingScope ["orders:read"]) := rfl
  exact ⟨hdenied, (build_adds_up "op" "GET" "/op" [.scopes ["orders:read"]]).2.2.2.2.2
    [.roles []] caller _ hdenied⟩

end Spec

end Callpoint
