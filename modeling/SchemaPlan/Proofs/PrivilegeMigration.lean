import Mathlib.Logic.Function.Basic
import SchemaPlan.Proofs.Privileges

/-!
# Privileges are migrated

What revokes and grants do is carried out on what is known of the privileges on objects: which role
may do what, and whether it may pass that on (`Holdings`).  An operation that does not mention a
privilege leaves it as it is, and so does a run (`run_of_not_mentions`).

A change revokes before it grants.  The revokes take away what is no longer declared, and also what
is declared without the option that it had: a grant cannot weaken what is held, so such a privilege
is granted anew.  The grants then add what is missing.  A privilege is mentioned by these operations
exactly if it changes (`mentions_privilegeOps`), and what the run leaves is what is declared
(`run_privilegeOps`).
-/

namespace SchemaPlan

open Function (update)

/-! ### Holding privileges -/

/-- Which role may do what with an object, and then whether it may pass that on. -/
abbrev Holdings :=
  ObjectRef → String → String → Option Bool

namespace Holdings

/-- The privileges after an operation.  What is revoked is gone with its option; what is granted is
there, with the option if it is granted with it or was there with it. -/
def perform (held : Holdings) : Op → Holdings
  | .revoke object roles operations => fun o role operation =>
    if o = object ∧ role ∈ roles ∧ operation ∈ operations then none
    else held o role operation
  | .grant object roles operations option => fun o role operation =>
    if o = object ∧ role ∈ roles ∧ operation ∈ operations then
      some ((held o role operation).getD false || option)
    else held o role operation
  | _ => held

/-- The privileges after operations. -/
def run (held : Holdings) (ops : List Op) : Holdings :=
  ops.foldl perform held

end Holdings

/-- Whether an operation revokes or grants a privilege. -/
def Op.Mentions (o : ObjectRef) (role operation : String) : Op → Prop
  | .revoke object roles operations => o = object ∧ role ∈ roles ∧ operation ∈ operations
  | .grant object roles operations _ => o = object ∧ role ∈ roles ∧ operation ∈ operations
  | _ => False

namespace Holdings

variable {held : Holdings} {op : Op} {ops : List Op} {o : ObjectRef} {role operation : String}

theorem run_append (a b : List Op) : held.run (a ++ b) = (held.run a).run b :=
  List.foldl_append

theorem perform_of_not_mentions (h : ¬op.Mentions o role operation) :
    held.perform op o role operation = held o role operation := by
  cases op with
  | revoke => exact if_neg h
  | grant => exact if_neg h
  | _ => rfl

/-- **What is not mentioned stays as it is.** -/
theorem run_of_not_mentions (h : ∀ op ∈ ops, ¬op.Mentions o role operation) :
    held.run ops o role operation = held o role operation := by
  induction ops generalizing held with
  | nil => rfl
  | cons op ops ih =>
    exact (ih fun op hop => h op (List.mem_cons_of_mem _ hop)).trans
      (perform_of_not_mentions (h op List.mem_cons_self))

/-- A privilege is mentioned any number of times, but at least once, and each time the same is done
to it. -/
theorem run_of_mentions {f : Option Bool → Option Bool} (hf : ∀ option, f (f option) = f option)
    (hops : ∀ op ∈ ops, op.Mentions o role operation → ∀ held : Holdings,
      held.perform op o role operation = f (held o role operation))
    (h : ∃ op ∈ ops, op.Mentions o role operation) :
    held.run ops o role operation = f (held o role operation) := by
  induction ops generalizing held with
  | nil => simp at h
  | cons op ops ih =>
    have hrest := fun op hop => hops op (List.mem_cons_of_mem _ hop)
    show (held.perform op).run ops o role operation = _
    by_cases hop : op.Mentions o role operation
    · by_cases hlater : ∃ op ∈ ops, op.Mentions o role operation
      · rw [ih hrest hlater, hops op List.mem_cons_self hop, hf]
      · rw [run_of_not_mentions (by simpa using hlater), hops op List.mem_cons_self hop]
    · obtain ⟨other, hmem, hother⟩ := h
      have hlater : other ∈ ops := (List.mem_cons.1 hmem).resolve_left fun he => hop (he ▸ hother)
      rw [ih hrest ⟨other, hlater, hother⟩, perform_of_not_mentions hop]

theorem run_of_revoked (hops : ∀ op ∈ ops, ∃ object roles operations,
      op = .revoke object roles operations) (h : ∃ op ∈ ops, op.Mentions o role operation) :
    held.run ops o role operation = none := by
  refine run_of_mentions (f := fun _ => none) (fun _ => rfl) (fun op hop hm held => ?_) h
  obtain ⟨object, roles, operations, rfl⟩ := hops op hop
  exact if_pos hm

theorem run_of_granted (option : Bool) (hops : ∀ op ∈ ops, op.Mentions o role operation →
      ∃ object roles operations, op = .grant object roles operations option)
    (h : ∃ op ∈ ops, op.Mentions o role operation) :
    held.run ops o role operation = some ((held o role operation).getD false || option) := by
  refine run_of_mentions (f := fun held => some (held.getD false || option))
    (fun held => by simp) (fun op hop hm held => ?_) h
  obtain ⟨object, roles, operations, rfl⟩ := hops op hop hm
  exact if_pos hm

end Holdings

/-! ### What a change revokes and grants -/

/-- The operations of a change: first those that revoke, then those that grant. -/
structure Phases (object : ObjectRef) (old new : List Grant) (revokes grants : List Op) : Prop where
  eq : privilegeOps object old new = revokes ++ grants
  revokes : ∀ op ∈ revokes, ∃ role operations, op = .revoke object [role] operations
  grants : ∀ op ∈ grants, ∃ role operations option, op = .grant object [role] operations option

theorem exists_phases (object : ObjectRef) (old new : List Grant) :
    ∃ revokes grants, Phases object old new revokes grants := by
  refine ⟨_, _, rfl, fun op hop => ?_, fun op hop => ?_⟩
  · obtain ⟨⟨role, ps⟩, -, hop⟩ := List.mem_flatMap.1 hop
    dsimp only at hop
    split at hop
    · cases hop
    · exact ⟨role, _, List.mem_singleton.1 hop⟩
  · obtain ⟨⟨role, ps⟩, -, hop⟩ := List.mem_flatMap.1 hop
    obtain ⟨option, -, hop⟩ := List.mem_flatMap.1 hop
    dsimp only at hop
    split at hop
    · cases hop
    · exact ⟨role, _, option, List.mem_singleton.1 hop⟩

section Change

variable {object o : ObjectRef} {old new : List Grant} {revokes grants : List Op} {op : Op}
  {role operation : String}

theorem Phases.mentions_revokes (h : Phases object old new revokes grants) :
    (∃ op ∈ revokes, op.Mentions o role operation) ↔ o = object ∧
      ∃ option, declaredOption old role operation = some option ∧
        ∀ left, declaredOption new role operation = some left → option = true ∧ left = false := by
  rw [← @revoked_iff object old new role operation]
  constructor
  · rintro ⟨op, hop, hm⟩
    obtain ⟨role', operations, rfl⟩ := h.revokes op hop
    obtain ⟨ho, hrole, hoperation⟩ := hm
    obtain rfl := List.mem_singleton.1 hrole
    exact ⟨ho, operations, h.eq ▸ List.mem_append_left _ hop, hoperation⟩
  · rintro ⟨rfl, operations, hop, hoperation⟩
    rcases List.mem_append.1 (h.eq ▸ hop) with hop | hop
    · exact ⟨_, hop, rfl, List.mem_singleton_self role, hoperation⟩
    · obtain ⟨_, _, _, he⟩ := h.grants _ hop
      cases he

/-- A grant that mentions a privilege grants it as it is declared. -/
theorem Phases.eq_grant (h : Phases object old new revokes grants) (hop : op ∈ grants)
    (hm : op.Mentions o role operation) :
    o = object ∧ ∃ operations option, op = .grant object [role] operations option ∧
      declaredOption new role operation = some option ∧
      declaredOption old role operation ≠ some option := by
  obtain ⟨role', operations, option, rfl⟩ := h.grants op hop
  obtain ⟨ho, hrole, hoperation⟩ := hm
  obtain rfl := List.mem_singleton.1 hrole
  exact ⟨ho, operations, option, rfl,
    granted_iff.1 ⟨operations, h.eq ▸ List.mem_append_right _ hop, hoperation⟩⟩

theorem Phases.mentions_grants (h : Phases object old new revokes grants) :
    (∃ op ∈ grants, op.Mentions o role operation) ↔ o = object ∧
      ∃ option, declaredOption new role operation = some option ∧
        declaredOption old role operation ≠ some option := by
  constructor
  · rintro ⟨op, hop, hm⟩
    obtain ⟨ho, -, option, -, hdeclared⟩ := h.eq_grant hop hm
    exact ⟨ho, option, hdeclared⟩
  · rintro ⟨rfl, option, hdeclared⟩
    obtain ⟨operations, hop, hoperation⟩ : ∃ operations,
        .grant o [role] operations option ∈ privilegeOps o old new ∧ operation ∈ operations :=
      granted_iff.2 hdeclared
    rcases List.mem_append.1 (h.eq ▸ hop) with hop | hop
    · obtain ⟨_, _, he⟩ := h.revokes _ hop
      cases he
    · exact ⟨_, hop, rfl, List.mem_singleton_self role, hoperation⟩

/-- **A privilege is mentioned exactly if it changes.** -/
theorem mentions_privilegeOps :
    (∃ op ∈ privilegeOps object old new, op.Mentions o role operation) ↔ o = object ∧
      declaredOption old role operation ≠ declaredOption new role operation := by
  obtain ⟨revokes, grants, h⟩ := exists_phases object old new
  simp only [h.eq, List.mem_append, or_and_right, exists_or]
  rw [h.mentions_revokes, h.mentions_grants, ← and_or_left]
  refine and_congr_right fun _ => ?_
  cases declaredOption old role operation <;> cases declaredOption new role operation <;> simp
  next before after => cases before <;> cases after <;> simp

/-- What the revokes leave is declared, with the option if it is left with it. -/
theorem Phases.run_revokes (h : Phases object old new revokes grants) {held : Holdings}
    (hheld : held object = declaredOption old) {option : Bool}
    (hrun : held.run revokes object role operation = some option) :
    ∃ declared, declaredOption new role operation = some declared ∧
      (option = true → declared = true) := by
  have hnot : ¬∃ op ∈ revokes, op.Mentions object role operation := by
    intro hm
    rw [Holdings.run_of_revoked _ hm] at hrun
    · cases hrun
    · intro op hop
      obtain ⟨role, operations, rfl⟩ := h.revokes op hop
      exact ⟨object, [role], operations, rfl⟩
  have hold : declaredOption old role operation = some option := by
    rw [← hheld, ← hrun]
    exact (Holdings.run_of_not_mentions (by simpa using hnot)).symm
  cases hnew : declaredOption new role operation with
  | none => exact absurd (h.mentions_revokes.2 ⟨rfl, option, hold, by simp [hnew]⟩) hnot
  | some declared =>
    refine ⟨declared, rfl, fun hoption => ?_⟩
    by_contra hdeclared
    refine hnot (h.mentions_revokes.2 ⟨rfl, option, hold, fun left hleft => ⟨hoption, ?_⟩⟩)
    rw [hnew] at hleft
    simpa [Option.some.inj hleft] using hdeclared

/-- **What the operations leave is what is declared**, and all other objects are left alone. -/
theorem run_privilegeOps {held : Holdings} (hheld : held object = declaredOption old) :
    held.run (privilegeOps object old new) = update held object (declaredOption new) := by
  obtain ⟨revokes, grants, h⟩ := exists_phases object old new
  funext o role operation
  -- Only what changes is mentioned; the rest need not be followed through the phases.
  by_cases hm : ∃ op ∈ privilegeOps object old new, op.Mentions o role operation
  · obtain ⟨rfl, hchange⟩ := mentions_privilegeOps.1 hm
    rw [Function.update_self, h.eq, Holdings.run_append]
    cases hnew : declaredOption new role operation with
    | none =>
      have hgone : held.run revokes o role operation = none := by
        by_contra hleft
        obtain ⟨option, hoption⟩ := Option.ne_none_iff_exists'.1 hleft
        obtain ⟨_, hdeclared, -⟩ := h.run_revokes hheld hoption
        rw [hnew] at hdeclared
        cases hdeclared
      rw [Holdings.run_of_not_mentions, hgone]
      intro op hop hm
      obtain ⟨-, _, hdeclared, -⟩ := h.mentions_grants.1 ⟨op, hop, hm⟩
      rw [hnew] at hdeclared
      cases hdeclared
    | some option =>
      rw [hnew] at hchange
      rw [Holdings.run_of_granted option]
      · cases hleft : held.run revokes o role operation with
        | none => simp
        | some left =>
          obtain ⟨declared, hdeclared, hkept⟩ := h.run_revokes hheld hleft
          obtain rfl : option = declared := Option.some.inj (hnew ▸ hdeclared)
          cases left with
          | false => simp
          | true => simp [hkept rfl]
      · intro op hop hm
        obtain ⟨-, operations, option', rfl, hdeclared, -⟩ := h.eq_grant hop hm
        rw [hnew] at hdeclared
        exact ⟨o, [role], operations, by rw [Option.some.inj hdeclared]⟩
      · exact h.mentions_grants.2 ⟨rfl, option, hnew, hchange⟩
  · have hstays : held.run (privilegeOps object old new) o role operation = held o role operation :=
      Holdings.run_of_not_mentions (by simpa using hm)
    by_cases ho : o = object
    · subst ho
      have hsame := not_and_not_right.1 (mt mentions_privilegeOps.2 hm) rfl
      rw [hstays, Function.update_self, hheld, hsame]
    · rw [hstays, Function.update_of_ne ho]

end Change

/-! ### Owners and privileges -/

/-- Operations that take the privileges on an object from one state to another: they leave those on
other objects alone, mention a privilege exactly if it changes, and if none does, nothing but the
owner is set. -/
structure MigratesPrivileges (object : ObjectRef) (before after : String → String → Option Bool)
    (ops : List Op) : Prop where
  run : ∀ held : Holdings, held object = before → held.run ops = update held object after
  mentions : ∀ o role operation, (∃ op ∈ ops, op.Mentions o role operation) ↔
    o = object ∧ before role operation ≠ after role operation
  only_owner : before = after → ∀ op ∈ ops, ∃ owner, op = .alterOwner object owner

theorem exists_mentions {object : ObjectRef} {old new : List Grant} {op : Op}
    (hop : op ∈ privilegeOps object old new) :
    ∃ role operation, op.Mentions object role operation := by
  rcases mem_privilegeOps_iff.1 hop with ⟨role, ps, -, hne, rfl⟩ | ⟨role, ps, option, -, hne, rfl⟩
  all_goals
    obtain ⟨operation, hoperation⟩ := List.exists_mem_of_ne_nil _ hne
    exact ⟨role, operation, rfl, List.mem_singleton_self role, hoperation⟩

theorem eq_alterOwner {object : ObjectRef} {old new : Option String} {op : Op}
    (hop : op ∈ ownerOps object old new) : ∃ owner, op = .alterOwner object owner := by
  cases new with
  | none => cases hop
  | some owner =>
    rw [ownerOps] at hop
    split at hop
    · cases hop
    · exact ⟨owner, List.mem_singleton.1 hop⟩

theorem objectOps_eq_append {c : Comparison} (hc : c.options.manageGrants = true)
    (object : ObjectRef) (owner : Option String) (new : List Grant)
    (old : Option (Option String × List Grant)) :
    ∃ owners, c.objectOps object owner new old =
        owners ++ privilegeOps object (old.getD (none, [])).2 new ∧
      ∀ op ∈ owners, ∃ owner, op = .alterOwner object owner := by
  refine ⟨if c.options.manageOwnership then ownerOps object (old.getD (none, [])).1 owner else [],
    ?_, fun op hop => ?_⟩
  · simp only [Comparison.objectOps, hc, if_true]
  · split at hop
    · exact eq_alterOwner hop
    · cases hop

/-- **The privileges on an object are migrated exactly**, if they are managed: from those that it
had, if it was there before, to those that are declared. -/
theorem privileges_migrated {c : Comparison} (hc : c.options.manageGrants = true)
    (object : ObjectRef) (owner : Option String) (new : List Grant)
    (old : Option (Option String × List Grant)) :
    MigratesPrivileges object (declaredOption (old.getD (none, [])).2) (declaredOption new)
      (c.objectOps object owner new old) := by
  obtain ⟨owners, he, howners⟩ := objectOps_eq_append hc object owner new old
  have hunmentioned : ∀ op ∈ owners, ∀ o role operation, ¬op.Mentions o role operation := by
    intro op hop
    obtain ⟨owner, rfl⟩ := howners op hop
    exact fun _ _ _ => id
  rw [he]
  refine ⟨fun held hheld => ?_, fun o role operation => ?_, fun hsame op hop => ?_⟩
  · have hleft : held.run owners = held := by
      funext o role operation
      exact Holdings.run_of_not_mentions fun op hop => hunmentioned op hop o role operation
    rw [Holdings.run_append, hleft, run_privilegeOps hheld]
  · rw [← mentions_privilegeOps]
    simp only [List.mem_append, or_and_right, exists_or]
    exact or_iff_right fun ⟨op, hop, hm⟩ => hunmentioned op hop o role operation hm
  · rcases List.mem_append.1 hop with hop | hop
    · exact howners op hop
    · obtain ⟨role, operation, hm⟩ := exists_mentions hop
      exact absurd (congrFun (congrFun hsame role) operation)
        (mentions_privilegeOps.1 ⟨op, hop, hm⟩).2

/-! ### A registry -/

/-- The records of a registry. -/
def Registry.records : ObjectRef where
  kind := .table
  name := "registry.records"

/-- Readers and clerks may read, and let others read; clerks may add records. -/
def Registry.first : List Grant :=
  [{ roles := ["reader", "clerk"], operations := ["select"], withGrantOption := true },
    { roles := ["clerk"], operations := ["insert"] }]

/-- Only clerks may let others read, and they may correct records instead of adding them. -/
def Registry.second : List Grant :=
  [{ roles := ["clerk", "reader"], operations := [" Select "] },
    { roles := ["clerk"], operations := ["update"] },
    { roles := ["clerk"], operations := ["SELECT"], withGrantOption := true }]

/-- The reader's right to read is revoked and granted without the option; the clerk's stays. -/
def Registry.changes : List Op :=
  [.revoke Registry.records ["clerk"] ["INSERT"],
    .revoke Registry.records ["reader"] ["SELECT"],
    .grant Registry.records ["clerk"] ["UPDATE"] false,
    .grant Registry.records ["reader"] ["SELECT"] false]

/-- A reader keeps the right to read and loses the option to pass it on. -/
theorem privileges_migrated_of_registry :
    ∃ c : Comparison, c.options.manageGrants = true ∧
      c.objectOps Registry.records none Registry.second (some (none, Registry.first)) =
        Registry.changes ∧
      MigratesPrivileges Registry.records (declaredOption Registry.first)
        (declaredOption Registry.second) Registry.changes ∧
      Holdings.run (fun _ => declaredOption Registry.first) Registry.changes Registry.records
        "reader" "SELECT" = some false := by
  let c : Comparison :=
    { old := none, new := ⟨[], []⟩, newOrder := [], oldOrder := [], options := {}, style := {}
      pairs := [] }
  have hops : c.objectOps Registry.records none Registry.second (some (none, Registry.first)) =
      Registry.changes := by
    decide +kernel
  have h := privileges_migrated (c := c) rfl Registry.records none Registry.second
    (some (none, Registry.first))
  rw [hops] at h
  refine ⟨c, rfl, hops, h, ?_⟩
  rw [h.run _ rfl, Function.update_self]
  decide +kernel

end SchemaPlan
