import Callpoint.Access

/-!
# Decisions

A caller is denied for a requirement that is there: `authorize_eq_error` says which one each denial
goes back to.  Which of several unmet requirements a denial names is fixed by their order: a call is
allowed if all are met (`Requirements.MetBy`), and denied for the first one that is not
(`Requirements.FirstFailure`).  Requirements that are added shut callers out and let none in
(`Requirements.authorize_eq_ok_of_add`).
-/

namespace Callpoint

theorem firstUnmet_mem {groups : List (List String)} {granted : String → Bool}
    {group : List String} (h : firstUnmet groups granted = some group) : group ∈ groups :=
  List.mem_of_find?_eq_some h

/-- A limit that was reached is denied with the caller's own usage and threshold. -/
theorem firstReached_eq_some {caller : Identity} {limits : List UsageLimit} {denial : Denial}
    (h : firstReached caller limits = some denial) :
    ∃ l ∈ limits,
      denial = .usageExceeded l.statKey (caller.usage l.statKey) (l.threshold caller) := by
  induction limits with
  | nil => cases h
  | cons l limits ih =>
    unfold firstReached at h
    split at h
    · obtain rfl := Option.some.inj h
      exact ⟨l, List.mem_cons_self, rfl⟩
    · obtain ⟨l', hl', hdenial⟩ := ih h
      exact ⟨l', List.mem_cons_of_mem _ hl', hdenial⟩

/-- **Where a denial comes from.** -/
theorem authorize_eq_error {req : Requirements} {caller : Identity} {denial : Denial}
    (h : authorize req caller = .error denial) :
    (req.authRequired = true ∧ denial = .unauthenticated) ∨
      (∃ group ∈ req.scopeGroups, denial = .missingScope group) ∨
      (∃ group ∈ req.roleGroups, denial = .missingRole group) ∨
      ∃ l ∈ req.usageLimits,
        denial = .usageExceeded l.statKey (caller.usage l.statKey) (l.threshold caller) := by
  unfold authorize at h
  -- The requirements are checked in this order, and the first one that is not met denies.
  split at h
  · cases h
  next hrequired =>
  have hauth : req.authRequired = true := by simpa using hrequired
  split at h
  · obtain rfl := Except.error.inj h
    exact Or.inl ⟨hauth, rfl⟩
  split at h
  · next group hscope =>
    obtain rfl := Except.error.inj h
    exact Or.inr (Or.inl ⟨group, firstUnmet_mem hscope, rfl⟩)
  split at h
  · next group hrole =>
    obtain rfl := Except.error.inj h
    exact Or.inr (Or.inr (Or.inl ⟨group, firstUnmet_mem hrole, rfl⟩))
  split at h
  · next reached hreached =>
    obtain rfl := Except.error.inj h
    exact Or.inr (Or.inr (Or.inr (firstReached_eq_some hreached)))
  · cases h

/-! ### The first failure in a list -/

section FirstFailing

variable {α : Type} {p : α → Prop} {x y : α} {xs : List α}

/-- **The first member without a property:** all members before it have the property. -/
def FirstFailing (p : α → Prop) (xs : List α) (x : α) : Prop :=
  ∃ before after, xs = before ++ x :: after ∧ (∀ y ∈ before, p y) ∧ ¬ p x

theorem not_firstFailing_nil : ¬ FirstFailing p [] x := by
  rintro ⟨before, after, h, -, -⟩
  exact absurd h.symm (List.append_ne_nil_of_right_ne_nil _ (List.cons_ne_nil _ _))

/-- The first failure is the first member, or else the first one among the others. -/
theorem firstFailing_cons_iff :
    FirstFailing p (y :: xs) x ↔ (¬ p y ∧ x = y) ∨ (p y ∧ FirstFailing p xs x) := by
  constructor
  · rintro ⟨before, after, h, hbefore, hx⟩
    cases before with
    | nil =>
      obtain ⟨rfl, rfl⟩ := List.cons.inj h
      exact Or.inl ⟨hx, rfl⟩
    | cons z before =>
      obtain ⟨rfl, rfl⟩ := List.cons.inj h
      have hy := hbefore y List.mem_cons_self
      exact Or.inr ⟨hy, before, after, rfl, fun z hz => hbefore z (List.mem_cons_of_mem _ hz), hx⟩
  · rintro (⟨hy, rfl⟩ | ⟨hy, before, after, rfl, hbefore, hx⟩)
    · exact ⟨[], xs, rfl, fun _ h => absurd h List.not_mem_nil, hy⟩
    · exact ⟨y :: before, after, rfl, List.forall_mem_cons.mpr ⟨hy, hbefore⟩, hx⟩

end FirstFailing

/-! ### Groups and limits -/

/-- **A group is met** if one of its members is granted. -/
def Meets (granted : String → Bool) (group : List String) : Prop :=
  ∃ member ∈ group, granted member = true

/-- **A caller is below a limit:** at the threshold it has been reached. -/
def UsageLimit.Below (caller : Identity) (l : UsageLimit) : Prop :=
  caller.usage l.statKey < l.threshold caller

section Groups

variable {groups : List (List String)} {granted : String → Bool}

theorem not_any_iff {group : List String} : (!group.any granted) = true ↔ ¬ Meets granted group := by
  simp [Meets]

theorem firstUnmet_eq_none_iff :
    firstUnmet groups granted = none ↔ ∀ group ∈ groups, Meets granted group := by
  simp only [firstUnmet, List.find?_eq_none, not_any_iff, Classical.not_not]

/-- The group that is left over is the first that is not met. -/
theorem firstUnmet_eq_some_iff {group : List String} :
    firstUnmet groups granted = some group ↔ FirstFailing (Meets granted) groups group := by
  induction groups with
  | nil => simp [firstUnmet, not_firstFailing_nil]
  | cons other groups ih =>
    rw [firstFailing_cons_iff, ← ih, firstUnmet, List.find?_cons]
    by_cases hother : Meets granted other
    · simp [firstUnmet, Bool.eq_false_iff.mpr fun h => not_any_iff.mp h hother, hother]
    · simp [not_any_iff.mpr hother, hother, eq_comm]

end Groups

section Limits

variable {caller : Identity} {limits : List UsageLimit}

theorem firstReached_eq_none_iff :
    firstReached caller limits = none ↔ ∀ l ∈ limits, l.Below caller := by
  induction limits with
  | nil => simp [firstReached]
  | cons l limits ih =>
    rw [List.forall_mem_cons, ← ih, UsageLimit.Below, ← Nat.not_le, firstReached]
    split <;> simp [*]

/-- The limit that is told is the first one that was reached. -/
theorem firstReached_eq_some_iff {denial : Denial} :
    firstReached caller limits = some denial ↔
      ∃ l, FirstFailing (UsageLimit.Below caller) limits l ∧
        denial = .usageExceeded l.statKey (caller.usage l.statKey) (l.threshold caller) := by
  -- Limit by limit; the denial is made at the one where the search ends.
  induction limits with
  | nil => simp [firstReached, not_firstFailing_nil]
  | cons l limits ih =>
    simp only [firstFailing_cons_iff]
    unfold firstReached
    split
    · next hreached =>
      have hl : ¬ l.Below caller := Nat.not_lt.mpr hreached
      simp [hl, eq_comm]
    · next hbelow =>
      have hl : l.Below caller := Nat.not_le.mp hbelow
      simp [hl, ih]

end Limits

/-! ### The decision -/

namespace Requirements

variable {r : Requirements} {caller : Identity}

/-- **All requirements are met.** -/
structure MetBy (r : Requirements) (caller : Identity) : Prop where
  authenticated : caller.authenticated = true
  scopes : ∀ group ∈ r.scopeGroups, Meets caller.hasScope group
  roles : ∀ group ∈ r.roleGroups, Meets caller.hasRole group
  usage : ∀ l ∈ r.usageLimits, l.Below caller

/-- **The first requirement that is not met,** as the denial that names it.  Authentication is
looked at first, then scopes, roles and usage, and the groups and limits in the order in which they
were required. -/
inductive FirstFailure (r : Requirements) (caller : Identity) : Denial → Prop
  | authentication (h : caller.authenticated = false) : FirstFailure r caller .unauthenticated
  | scopes {group : List String} (hauth : caller.authenticated = true)
      (h : FirstFailing (Meets caller.hasScope) r.scopeGroups group) :
      FirstFailure r caller (.missingScope group)
  | roles {group : List String} (hauth : caller.authenticated = true)
      (hscopes : ∀ group ∈ r.scopeGroups, Meets caller.hasScope group)
      (h : FirstFailing (Meets caller.hasRole) r.roleGroups group) :
      FirstFailure r caller (.missingRole group)
  | usage {l : UsageLimit} (hauth : caller.authenticated = true)
      (hscopes : ∀ group ∈ r.scopeGroups, Meets caller.hasScope group)
      (hroles : ∀ group ∈ r.roleGroups, Meets caller.hasRole group)
      (h : FirstFailing (UsageLimit.Below caller) r.usageLimits l) :
      FirstFailure r caller
        (.usageExceeded l.statKey (caller.usage l.statKey) (l.threshold caller))

/-- Either all requirements are met, or there is a first one that is not. -/
theorem metBy_or_firstFailure (r : Requirements) (caller : Identity) :
    r.MetBy caller ∨ ∃ denial, r.FirstFailure caller denial := by
  -- The cases are the classes of requirements, each where all classes before it are met.
  cases hauth : caller.authenticated with
  | false => exact Or.inr ⟨_, .authentication hauth⟩
  | true =>
    cases hscopes : firstUnmet r.scopeGroups caller.hasScope with
    | some group => exact Or.inr ⟨_, .scopes hauth (firstUnmet_eq_some_iff.mp hscopes)⟩
    | none =>
      have hscopes := firstUnmet_eq_none_iff.mp hscopes
      cases hroles : firstUnmet r.roleGroups caller.hasRole with
      | some group => exact Or.inr ⟨_, .roles hauth hscopes (firstUnmet_eq_some_iff.mp hroles)⟩
      | none =>
        have hroles := firstUnmet_eq_none_iff.mp hroles
        cases husage : firstReached caller r.usageLimits with
        | some denial =>
          obtain ⟨l, hl, -⟩ := firstReached_eq_some_iff.mp husage
          exact Or.inr ⟨_, .usage hauth hscopes hroles hl⟩
        | none => exact Or.inl ⟨hauth, hscopes, hroles, firstReached_eq_none_iff.mp husage⟩

theorem MetBy.authorize_eq_ok (h : r.MetBy caller) : authorize r caller = .ok () := by
  simp [authorize, h.authenticated, firstUnmet_eq_none_iff.mpr h.scopes,
    firstUnmet_eq_none_iff.mpr h.roles, firstReached_eq_none_iff.mpr h.usage]

/-- Who does not is denied for the first one. -/
theorem FirstFailure.authorize_eq_error {denial : Denial} (hrequired : r.authRequired = true)
    (h : r.FirstFailure caller denial) : authorize r caller = .error denial := by
  -- Each check in front of the one that fails is passed by the hypotheses of the case.
  cases h with
  | authentication hauth => simp [authorize, hrequired, hauth]
  | scopes hauth hgroup =>
    simp [authorize, hrequired, hauth, firstUnmet_eq_some_iff.mpr hgroup]
  | roles hauth hscopes hgroup =>
    simp [authorize, hrequired, hauth, firstUnmet_eq_none_iff.mpr hscopes,
      firstUnmet_eq_some_iff.mpr hgroup]
  | usage hauth hscopes hroles hlimit =>
    simp [authorize, hrequired, hauth, firstUnmet_eq_none_iff.mpr hscopes,
      firstUnmet_eq_none_iff.mpr hroles, firstReached_eq_some_iff.mpr ⟨_, hlimit, rfl⟩]

end Requirements

/-- A call is allowed if nothing is required or all is met. -/
theorem authorize_eq_ok_iff {r : Requirements} {caller : Identity} :
    authorize r caller = .ok () ↔ r.authRequired = false ∨ r.MetBy caller := by
  constructor
  · intro h
    cases hrequired : r.authRequired with
    | false => exact Or.inl rfl
    | true =>
      obtain hmet | ⟨denial, hfirst⟩ := r.metBy_or_firstFailure caller
      · exact Or.inr hmet
      · rw [hfirst.authorize_eq_error hrequired] at h
        cases h
  · rintro (hfree | hmet)
    · simp [authorize, hfree]
    · exact hmet.authorize_eq_ok

/-- A call is denied for the first failure of what is required, and for no other. -/
theorem authorize_eq_error_iff {r : Requirements} {caller : Identity} {denial : Denial} :
    authorize r caller = .error denial ↔ r.authRequired = true ∧ r.FirstFailure caller denial := by
  constructor
  · intro h
    have hnot : ¬ (r.authRequired = false ∨ r.MetBy caller) := by
      rw [← authorize_eq_ok_iff, h]
      exact fun herror => nomatch herror
    obtain ⟨hrequired, hunmet⟩ := not_or.mp hnot
    have hrequired : r.authRequired = true := eq_true_of_ne_false hrequired
    -- There is a first failure since the call was not allowed, and a decision is only one.
    obtain hmet | ⟨first, hfirst⟩ := r.metBy_or_firstFailure caller
    · exact absurd hmet hunmet
    · rw [hfirst.authorize_eq_error hrequired] at h
      obtain rfl := Except.error.inj h
      exact ⟨hrequired, hfirst⟩
  · rintro ⟨hrequired, hfirst⟩
    exact hfirst.authorize_eq_error hrequired

/-- **What is decided on a call.** -/
theorem authorize_decides (r : Requirements) (caller : Identity) :
    (authorize r caller = .ok () ↔ r.authRequired = false ∨ r.MetBy caller) ∧
    ∀ denial, authorize r caller = .error denial ↔
      r.authRequired = true ∧ r.FirstFailure caller denial :=
  ⟨authorize_eq_ok_iff, fun _ => authorize_eq_error_iff⟩

/-! ### More requirements -/

namespace Requirements

variable {a b : Requirements} {caller : Identity}

/-- The requirements of both, those of the first one first. -/
def add (a b : Requirements) : Requirements where
  authRequired := a.authRequired || b.authRequired
  scopeGroups := a.scopeGroups ++ b.scopeGroups
  roleGroups := a.roleGroups ++ b.roleGroups
  usageLimits := a.usageLimits ++ b.usageLimits

theorem add_empty (a : Requirements) : a.add {} = a := by
  simp [add]

theorem add_assoc (a b c : Requirements) : (a.add b).add c = a.add (b.add c) := by
  simp [add, Bool.or_assoc]

/-- To meet the requirements of both is to meet those of each. -/
theorem metBy_add_iff : (a.add b).MetBy caller ↔ a.MetBy caller ∧ b.MetBy caller := by
  constructor
  · rintro ⟨hauth, hscopes, hroles, husage⟩
    obtain ⟨hscopes, hscopes'⟩ := List.forall_mem_append.mp hscopes
    obtain ⟨hroles, hroles'⟩ := List.forall_mem_append.mp hroles
    obtain ⟨husage, husage'⟩ := List.forall_mem_append.mp husage
    exact ⟨⟨hauth, hscopes, hroles, husage⟩, hauth, hscopes', hroles', husage'⟩
  · rintro ⟨⟨hauth, hscopes, hroles, husage⟩, -, hscopes', hroles', husage'⟩
    exact ⟨hauth, List.forall_mem_append.mpr ⟨hscopes, hscopes'⟩,
      List.forall_mem_append.mpr ⟨hroles, hroles'⟩, List.forall_mem_append.mpr ⟨husage, husage'⟩⟩

/-- Whoever is allowed under more requirements is allowed under fewer. -/
theorem authorize_eq_ok_of_add (h : authorize (a.add b) caller = .ok ()) :
    authorize a caller = .ok () := by
  rw [authorize_eq_ok_iff] at h ⊢
  rcases h with hfree | hmet
  · exact Or.inl (Bool.or_eq_false_iff.mp hfree).1
  · exact Or.inr (metBy_add_iff.mp hmet).1

end Requirements

end Callpoint
