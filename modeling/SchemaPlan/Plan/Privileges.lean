import SchemaPlan.Plan.Types

/-!
# Changing owners and privileges

The grants on an object amount to a set of privileges: for each role some operations, each with or
without the option to pass it on.  However the grants are written, only that set counts.  Privileges
that go away, or lose their option, are revoked first; then those that are new, or changed their
option, are granted, role by role.

An owner is set when one is declared that the object did not have; taking the declaration back
leaves the object with its owner.
-/

namespace SchemaPlan

/-- A list sorted by keys, with the value of a key made from what it was. -/
def updateKey {α : Type} (key : String) (f : Option α → α) :
    List (String × α) → List (String × α)
  | [] => [(key, f none)]
  | (k, v) :: rest =>
    if key == k then (k, f (some v)) :: rest
    else if key < k then (key, f none) :: (k, v) :: rest
    else (k, v) :: updateKey key f rest

/-- Operations with whether they may be passed on, sorted. -/
abbrev Privileges := List (String × Bool)

/-- Privileges with those of a grant. -/
def addOperations (operations : List String) (option : Bool) (ps : Privileges) : Privileges :=
  operations.foldl
    (fun ps op => updateKey (Text.uppercase (Text.trimmed op)) (·.getD false || option) ps) ps

/-- What grants amount to for each role, sorted. -/
def privilegesByRole (grants : List Grant) : List (String × Privileges) :=
  grants.foldl (fun roles g =>
    g.roles.foldl (fun roles r =>
      updateKey r (fun ps => addOperations g.operations g.withGrantOption (ps.getD [])) roles)
      roles) []

/-- The privileges of a role. -/
def privilegesOf (roles : List (String × Privileges)) (role : String) : Privileges :=
  (roles.lookup role).getD []

/-- The operations that a role loses, or loses the option of. -/
def lostOperations (old new : Privileges) : List String :=
  (old.filter fun (op, option) =>
    match new.lookup op with
    | none => true
    | some newOption => option && !newOption).map (·.1)

/-- The operations, with or without option, that a role does not have that way. -/
def gainedOperations (old new : Privileges) (option : Bool) : List String :=
  (new.filter fun (op, o) => o == option && old.lookup op != some option).map (·.1)

/-- Revokes what roles lose and grants what they gain. -/
def privilegeOps (object : ObjectRef) (old new : List Grant) : List Op :=
  let oldRoles := privilegesByRole old
  let newRoles := privilegesByRole new
  let unlessEmpty (ops : List String) (op : Op) := if ops.isEmpty then [] else [op]
  (oldRoles.flatMap fun (role, ps) =>
    let lost := lostOperations ps (privilegesOf newRoles role)
    unlessEmpty lost (.revoke object [role] lost)) ++
  newRoles.flatMap fun (role, ps) =>
    [false, true].flatMap fun option =>
      let gained := gainedOperations (privilegesOf oldRoles role) ps option
      unlessEmpty gained (.grant object [role] gained option)

/-- Gives an object its owner. -/
def ownerOps (object : ObjectRef) (old new : Option String) : List Op :=
  match new with
  | none => []
  | some owner => if old == some owner then [] else [.alterOwner object owner]

namespace Comparison

/-- The operations on the owner and the privileges of an object.  Of an object that is new, or was
created anew, nothing is left from before. -/
def objectOps (c : Comparison) (object : ObjectRef) (owner : Option String) (grants : List Grant)
    (old : Option (Option String × List Grant)) : List Op :=
  let (oldOwner, oldGrants) := old.getD (none, [])
  (if c.options.manageOwnership then ownerOps object oldOwner owner else []) ++
    (if c.options.manageGrants then privilegeOps object oldGrants grants else [])

/-- The operations on the owners and privileges in a schema, those of views aside. -/
def schemaPrivilegeOps (c : Comparison) (s : Schema) : List Op :=
  let old := c.oldSchema? s.name
  c.objectOps ⟨.schema, s.name, none⟩ s.owner s.grants (old.map fun o => (o.owner, o.grants)) ++
  (s.tables.flatMap fun t =>
    c.objectOps ⟨.table, Sql.qualified s.name t.name, none⟩ t.owner t.grants
      ((c.oldVersion? s.name t.name).map fun (_, o) => (o.owner, o.grants))) ++
  (s.sequences.flatMap fun q =>
    c.objectOps ⟨.sequence, Sql.qualified s.name q.name, none⟩ q.owner q.grants
      ((old.bind (·.sequence? q.name)).map fun o => (o.owner, o.grants))) ++
  (s.functions.flatMap fun f =>
    let kept := (old.bind (·.function? f.signature)).filter fun o =>
      Sql.TypeName.same o.returns f.returns
    c.objectOps ⟨.function, Sql.qualified s.name f.name, some f.argumentTypes⟩ f.owner f.grants
      (kept.map fun o => (o.owner, o.grants))) ++
  (s.types.flatMap fun t =>
    let kept := (old.bind (·.type? t.name)).filter fun o => !requiresRebuild o t
    c.objectOps ⟨.type, Sql.qualified s.name t.name, none⟩ t.owner []
      (kept.map fun o => (o.owner, [])))

/-- The operations on the owner and the privileges of a view that has just been created. -/
def viewPrivilegeOps (c : Comparison) (schema : String) (v : View) : List Op :=
  c.objectOps ⟨.view, Sql.qualified schema v.name, none⟩ v.owner v.grants none

end Comparison

end SchemaPlan
