import SchemaPlan.Proofs.Sameness

/-!
# What grants amount to

Grants are merged role by role and operation by operation.  What comes out is known by looking it up:
a role has an operation if a grant says so, and may pass it on if one of those that say so allows it
(`declaredOption`, `lookup_privilegesByRole`).

With that, the grants that a change makes are exactly the privileges, with or without the option,
that were not had that way before (`granted_iff`), and what it revokes are those that go away or
lose their option (`revoked_iff`).
-/

namespace SchemaPlan

/-! ### Looking up what has been updated -/

section Lookup

variable {α : Type} {key k : String} {f : Option α → α} {xs : List (String × α)}

theorem lookup_eq_none_of_lt (h : SortedKeys xs) (hlt : ∀ p ∈ xs.head?, key < p.1) :
    xs.lookup key = none := by
  rw [List.lookup_eq_none_iff]
  cases xs with
  | nil => simp
  | cons x xs =>
    have hx : key < x.1 := hlt x rfl
    rintro p hp
    rcases List.mem_cons.1 hp with rfl | hp
    · simpa using ne_of_lt hx
    · have hp := (List.pairwise_cons.1 h).1 p.1 (List.mem_map_of_mem hp)
      simpa using ne_of_lt (lt_trans hx hp)

theorem lookup_cons_eq_ite {v : α} :
    ((key, v) :: xs).lookup k = if k = key then some v else xs.lookup k := by
  by_cases hk : k = key
  · rw [if_pos hk, hk, List.lookup_cons_self]
  · rw [if_neg hk, List.lookup_cons, beq_eq_false_iff_ne.2 hk]

/-- **An update is seen under its key** and nowhere else. -/
theorem lookup_updateKey (h : SortedKeys xs) :
    (updateKey key f xs).lookup k = if k = key then some (f (xs.lookup key)) else xs.lookup k := by
  induction xs with
  | nil => exact lookup_cons_eq_ite
  | cons x xs ih =>
    obtain ⟨k', v⟩ := x
    rw [updateKey]
    by_cases he : key = k'
    · subst he
      rw [if_pos (beq_self_eq_true key), lookup_cons_eq_ite, lookup_cons_eq_ite,
        lookup_cons_eq_ite, if_pos rfl]
      split <;> rfl
    · rw [if_neg (by simpa using he)]
      by_cases hlt : key < k'
      · have hnone : List.lookup key ((k', v) :: xs) = none :=
          lookup_eq_none_of_lt h fun p hp => by
            rw [← Option.some.inj hp]
            exact hlt
        rw [if_pos hlt, lookup_cons_eq_ite, hnone]
      · rw [if_neg hlt, lookup_cons_eq_ite, ih (List.pairwise_cons.1 h).2, lookup_cons_eq_ite,
          lookup_cons_eq_ite, if_neg he]
        by_cases hk : k = k'
        · have hne : k ≠ key := fun hkey => he (hkey.symm.trans hk)
          rw [if_pos hk, if_pos hk, if_neg hne]
        · rw [if_neg hk, if_neg hk]

end Lookup

/-! ### The privileges that grants declare -/

/-- The name under which an operation is kept. -/
def operationName (operation : String) : String :=
  Text.uppercase (Text.trimmed operation)

/-- Whether a grant gives a role an operation, and then with the option or without. -/
def Grant.option? (g : Grant) (role operation : String) : Option Bool :=
  if role ∈ g.roles ∧ operation ∈ g.operations.map operationName then some g.withGrantOption
  else none

/-- Whether grants give a role an operation, and then whether one of them does with the option. -/
def declaredOption (grants : List Grant) (role operation : String) : Option Bool :=
  match grants.filterMap (·.option? role operation) with
  | [] => none
  | options => some (options.any id)

theorem declaredOption_nil (role operation : String) : declaredOption [] role operation = none :=
  rfl

theorem declaredOption_cons (g : Grant) (grants : List Grant) (role operation : String) :
    declaredOption (g :: grants) role operation =
      (g.option? role operation).merge (· || ·) (declaredOption grants role operation) := by
  unfold declaredOption
  rw [List.filterMap_cons]
  cases g.option? role operation with
  | none => cases grants.filterMap (·.option? role operation) <;> rfl
  | some option =>
    cases grants.filterMap (·.option? role operation) with
    | nil => simp [Option.merge]
    | cons other options => rfl

/-! ### Merging grants -/

theorem merge_or_assoc (a b c : Option Bool) :
    (a.merge (· || ·) b).merge (· || ·) c = a.merge (· || ·) (b.merge (· || ·) c) := by
  cases a <;> cases b <;> cases c <;> simp [Option.merge, Bool.or_assoc]

/-- Merging the same once more changes nothing. -/
theorem merge_or_self_left (a : Option Bool) (option : Bool) :
    (a.merge (· || ·) (some option)).merge (· || ·) (some option) =
      a.merge (· || ·) (some option) := by
  cases a <;> simp [Option.merge]

theorem lookup_addOperations {operations : List String} {option : Bool} {operation : String} :
    ∀ {ps : Privileges}, SortedKeys ps → (addOperations operations option ps).lookup operation =
      if operation ∈ operations.map operationName then
        (ps.lookup operation).merge (· || ·) (some option)
      else ps.lookup operation := by
  induction operations with
  | nil => exact fun _ => rfl
  | cons first operations ih =>
    intro ps h
    have hfirst : (updateKey (operationName first) (·.getD false || option) ps).lookup operation =
        if operation = operationName first then (ps.lookup operation).merge (· || ·) (some option)
        else ps.lookup operation := by
      rw [lookup_updateKey h]
      split
      next he =>
        rw [he]
        cases ps.lookup (operationName first) <;> simp [Option.merge]
      next => rfl
    show (addOperations operations option
      (updateKey (operationName first) (·.getD false || option) ps)).lookup operation = _
    rw [ih (sortedKeys_updateKey h), hfirst, List.map_cons]
    by_cases he : operation = operationName first
    · rw [if_pos he, if_pos (List.mem_cons.2 (.inl he)), merge_or_self_left, ite_self]
    · rw [if_neg he]
      exact if_congr (by simp [he]) rfl rfl

section Merge

variable {roles : List (String × Privileges)} {role operation : String}

theorem sortedKeys_privilegesOf (h : SortedRoles roles) : SortedKeys (privilegesOf roles role) := by
  rw [privilegesOf]
  cases hrole : roles.lookup role with
  | none => exact List.Pairwise.nil
  | some ps =>
    obtain ⟨front, back, rfl, -⟩ := List.lookup_eq_some_iff.1 hrole
    exact h.2 (role, ps) (by simp)

theorem privilegesOf_addToRole (h : SortedRoles roles) (g : Grant) (r : String) :
    privilegesOf (addToRole g roles r) role =
      if role = r then addOperations g.operations g.withGrantOption (privilegesOf roles role)
      else privilegesOf roles role := by
  rw [privilegesOf, addToRole, lookup_updateKey h.1]
  split
  next he => rw [he]; rfl
  next => rfl

/-- What a role has once a grant has been merged. -/
theorem lookup_addGrant (h : SortedRoles roles) (g : Grant) :
    (privilegesOf (addGrant roles g) role).lookup operation =
      ((privilegesOf roles role).lookup operation).merge (· || ·) (g.option? role operation) := by
  have hall : ∀ (names : List String) {roles : List (String × Privileges)}, SortedRoles roles →
      (privilegesOf (names.foldl (addToRole g) roles) role).lookup operation =
        if role ∈ names ∧ operation ∈ g.operations.map operationName then
          ((privilegesOf roles role).lookup operation).merge (· || ·) (some g.withGrantOption)
        else (privilegesOf roles role).lookup operation := by
    intro names
    induction names with
    | nil => exact fun _ => (if_neg fun h => List.not_mem_nil h.1).symm
    | cons name names ih =>
      intro roles h
      rw [List.foldl_cons, ih (sortedRoles_addToRole g h name), privilegesOf_addToRole h]
      by_cases he : role = name
      · rw [if_pos he, lookup_addOperations (sortedKeys_privilegesOf h)]
        by_cases hop : operation ∈ g.operations.map operationName
        · rw [if_pos hop, merge_or_self_left, ite_self,
            if_pos ⟨List.mem_cons.2 (.inl he), hop⟩]
        · rw [if_neg hop, if_neg fun h => hop h.2, if_neg fun h => hop h.2]
      · rw [if_neg he]
        exact if_congr (by simp [he]) rfl rfl
  rw [addGrant, hall g.roles h, Grant.option?]
  split
  · rfl
  · cases (privilegesOf roles role).lookup operation <;> rfl

/-- **What a role has once grants have been merged** is what they declare. -/
theorem lookup_foldl_addGrant (h : SortedRoles roles) (grants : List Grant) :
    (privilegesOf (grants.foldl addGrant roles) role).lookup operation =
      ((privilegesOf roles role).lookup operation).merge (· || ·)
        (declaredOption grants role operation) := by
  induction grants generalizing roles with
  | nil =>
    rw [List.foldl_nil, declaredOption_nil]
    cases (privilegesOf roles role).lookup operation <;> rfl
  | cons g grants ih =>
    rw [List.foldl_cons, ih (sortedRoles_addGrant g h), lookup_addGrant h, merge_or_assoc,
      declaredOption_cons]

theorem lookup_privilegesByRole (grants : List Grant) (role operation : String) :
    (privilegesOf (privilegesByRole grants) role).lookup operation =
      declaredOption grants role operation := by
  rw [privilegesByRole_eq, lookup_foldl_addGrant sortedRoles_nil]
  cases declaredOption grants role operation <;> rfl

end Merge

/-! ### What is revoked and granted -/

section Ops

variable {object : ObjectRef} {old new : List Grant} {op : Op} {role operation : String}
  {option : Bool}

/-- A role is dealt with at once, with all that it loses and with all that it gains with the option
or without. -/
theorem mem_privilegeOps_iff : op ∈ privilegeOps object old new ↔
    (∃ role ps, (role, ps) ∈ privilegesByRole old ∧
      lostOperations ps (privilegesOf (privilegesByRole new) role) ≠ [] ∧
      op = .revoke object [role] (lostOperations ps (privilegesOf (privilegesByRole new) role))) ∨
    ∃ role ps option, (role, ps) ∈ privilegesByRole new ∧
      gainedOperations (privilegesOf (privilegesByRole old) role) ps option ≠ [] ∧
      op = .grant object [role]
        (gainedOperations (privilegesOf (privilegesByRole old) role) ps option) option := by
  have hunless : ∀ (ops : List String) (other : Op),
      op ∈ (if ops.isEmpty then [] else [other]) ↔ ops ≠ [] ∧ op = other := by
    intro ops other
    cases ops <;> simp
  simp only [privilegeOps, List.mem_append, List.mem_flatMap, Prod.exists, hunless]
  refine or_congr Iff.rfl ⟨?_, ?_⟩
  · rintro ⟨role, ps, hm, option, -, hne, he⟩
    exact ⟨role, ps, option, hm, hne, he⟩
  · rintro ⟨role, ps, option, hm, hne, he⟩
    exact ⟨role, ps, hm, option, by cases option <;> simp, hne, he⟩

theorem privilegesOf_of_mem {roles : List (String × Privileges)} (h : SortedRoles roles)
    {ps : Privileges} (hm : (role, ps) ∈ roles) : privilegesOf roles role = ps := by
  rw [privilegesOf, lookup_of_sortedKeys h.1 hm]
  rfl

theorem mem_of_lookup_privilegesOf {roles : List (String × Privileges)} (h : SortedRoles roles)
    (hlookup : (privilegesOf roles role).lookup operation = some option) :
    ∃ ps, (role, ps) ∈ roles ∧ SortedKeys ps ∧ privilegesOf roles role = ps := by
  cases hrole : roles.lookup role with
  | none => simp [privilegesOf, hrole] at hlookup
  | some ps =>
    obtain ⟨front, back, he, -⟩ := List.lookup_eq_some_iff.1 hrole
    have hmem : (role, ps) ∈ roles := by
      rw [he]
      simp
    exact ⟨ps, hmem, h.2 _ hmem, privilegesOf_of_mem h hmem⟩

theorem mem_lostOperations {ps after : Privileges} (h : SortedKeys ps) :
    operation ∈ lostOperations ps after ↔ ∃ option, ps.lookup operation = some option ∧
      ∀ left, after.lookup operation = some left → option = true ∧ left = false := by
  simp only [lostOperations, List.mem_map, List.mem_filter, Prod.exists]
  constructor
  · rintro ⟨_, option, ⟨hm, hlost⟩, rfl⟩
    refine ⟨option, lookup_of_sortedKeys h hm, fun left hleft => ?_⟩
    rw [hleft] at hlost
    simpa using hlost
  · rintro ⟨option, hlookup, hlost⟩
    obtain ⟨front, back, rfl, -⟩ := List.lookup_eq_some_iff.1 hlookup
    refine ⟨operation, option, ⟨by simp, ?_⟩, rfl⟩
    cases hleft : after.lookup operation with
    | none => rfl
    | some left => simp [hlost left hleft]

theorem mem_gainedOperations {before ps : Privileges} (h : SortedKeys ps) :
    operation ∈ gainedOperations before ps option ↔
      ps.lookup operation = some option ∧ before.lookup operation ≠ some option := by
  simp only [gainedOperations, List.mem_map, List.mem_filter, Prod.exists, Bool.and_eq_true,
    beq_iff_eq, bne_iff_ne]
  constructor
  · rintro ⟨_, _, ⟨hm, rfl, hbefore⟩, rfl⟩
    exact ⟨lookup_of_sortedKeys h hm, hbefore⟩
  · rintro ⟨hlookup, hbefore⟩
    obtain ⟨front, back, rfl, -⟩ := List.lookup_eq_some_iff.1 hlookup
    exact ⟨operation, option, ⟨by simp, rfl, hbefore⟩, rfl⟩

/-- **Exactly what is new is granted**: what is declared now and was not, with the option or without
as it is declared. -/
theorem granted_iff : (∃ operations, .grant object [role] operations option ∈
      privilegeOps object old new ∧ operation ∈ operations) ↔
    declaredOption new role operation = some option ∧
      declaredOption old role operation ≠ some option := by
  have hsorted := sortedRoles_privilegesByRole new
  rw [← lookup_privilegesByRole new, ← lookup_privilegesByRole old]
  constructor
  · rintro ⟨operations, hop, hm⟩
    rcases mem_privilegeOps_iff.1 hop with ⟨_, _, -, -, he⟩ | ⟨role', ps, _, hrole, -, he⟩
    · cases he
    · injection he with _ hroles hoperations hoption
      obtain rfl := List.singleton_inj.1 hroles
      subst hoperations hoption
      rw [privilegesOf_of_mem hsorted hrole]
      exact (mem_gainedOperations (hsorted.2 _ hrole)).1 hm
  · rintro ⟨hnew, hold⟩
    obtain ⟨ps, hmem, hps, he⟩ := mem_of_lookup_privilegesOf hsorted hnew
    rw [he] at hnew
    have hgained := (mem_gainedOperations hps).2 ⟨hnew, hold⟩
    exact ⟨_, mem_privilegeOps_iff.2 (.inr ⟨role, ps, option, hmem, List.ne_nil_of_mem hgained,
      rfl⟩), hgained⟩

/-- **Exactly what is lost is revoked**: what is not declared any more, and what is without the
option that it was declared with. -/
theorem revoked_iff : (∃ operations, .revoke object [role] operations ∈
      privilegeOps object old new ∧ operation ∈ operations) ↔
    ∃ option, declaredOption old role operation = some option ∧
      ∀ left, declaredOption new role operation = some left → option = true ∧ left = false := by
  have hsorted := sortedRoles_privilegesByRole old
  rw [← lookup_privilegesByRole new, ← lookup_privilegesByRole old]
  constructor
  · rintro ⟨operations, hop, hm⟩
    rcases mem_privilegeOps_iff.1 hop with ⟨role', ps, hrole, -, he⟩ | ⟨_, _, _, -, -, he⟩
    · injection he with _ hroles hoperations
      obtain rfl := List.singleton_inj.1 hroles
      subst hoperations
      rw [privilegesOf_of_mem hsorted hrole]
      exact (mem_lostOperations (hsorted.2 _ hrole)).1 hm
    · cases he
  · rintro ⟨option, hold, hnew⟩
    obtain ⟨ps, hmem, hps, he⟩ := mem_of_lookup_privilegesOf hsorted hold
    rw [he] at hold
    have hlost := (mem_lostOperations hps).2 ⟨option, hold, hnew⟩
    exact ⟨_, mem_privilegeOps_iff.2 (.inl ⟨role, ps, hmem, List.ne_nil_of_mem hlost, rfl⟩), hlost⟩

end Ops

/-- Operations that grant what is declared, role by role, and do nothing else. -/
structure GrantsDeclared (object : ObjectRef) (declared : List Grant) (ops : List Op) : Prop where
  only : ∀ op ∈ ops, ∃ role operations option, op = .grant object [role] operations option
  all : ∀ role operation option, (∃ operations, .grant object [role] operations option ∈ ops ∧
    operation ∈ operations) ↔ declaredOption declared role operation = some option

/-- Of an object that had no privileges, all those declared are granted. -/
theorem grantsDeclared_of_none (object : ObjectRef) (declared : List Grant) :
    GrantsDeclared object declared (privilegeOps object [] declared) := by
  refine ⟨fun op hop => ?_, fun role operation option => ?_⟩
  · rcases mem_privilegeOps_iff.1 hop with ⟨_, _, hrole, -⟩ | ⟨role, ps, option, -, -, rfl⟩
    · cases hrole
    · exact ⟨role, _, option, rfl⟩
  · rw [granted_iff, declaredOption_nil]
    exact and_iff_left nofun

end SchemaPlan
