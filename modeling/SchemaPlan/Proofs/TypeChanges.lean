import SchemaPlan.Proofs.TypeRebuild

/-!
# Types are changed

What a plan does to a type is carried out on its definition (`TypeState.run?`): a step is made only
if the type is there, or is not for one that creates it, and what the step refers to is there: the
value that another goes in front of, or the check that is dropped.

Values are placed with regard to the enumeration as it will be, and added to one that grows.  Of the
values of the new version, those that have been gone through are there, and of the others those that
are old (`run?_addedValues`): the first of these is what a value is placed in front of.

The checks of a domain that are dropped go first, so that what is added may have their names.  The
checks that stay are those that both versions have, under the same names (`same_of_domainChanges`).
-/

namespace SchemaPlan

/-! ### Definitions of types and what is done to them -/

/-- The type that an operation is about. -/
def Op.changedType? : Op → Option String
  | .createType schema t => some (Sql.qualified schema t.name)
  | .dropType name _ => some name
  | .addEnumValue name _ _ => some name
  | .alterDomain name _ => some name
  | _ => none

/-- Values with others in the place of one of them, if it is there. -/
def splice? (anchor : String) (others : List String) : List String → Option (List String)
  | [] => none
  | v :: rest =>
    if v = anchor then some (others ++ rest) else (splice? anchor others rest).map (v :: ·)

/-- The values of an enumeration with one added, which is not among them and goes at the end or next
to one that is. -/
def insertValue? (values : List String) (value : String) (position : Option EnumPosition) :
    Option (List String) :=
  if value ∈ values then none
  else match position with
    | none => some (values ++ [value])
    | some (.before anchor) => splice? anchor [value, anchor] values
    | some (.after anchor) => splice? anchor [anchor, value] values

/-- A type after an operation that changes it, if the operation can be carried out. -/
def TypeBody.change? : TypeBody → Op → Option TypeBody
  | .enum values, .addEnumValue _ value position => (insertValue? values value position).map .enum
  | .domain baseType default? nullable checks, .alterDomain _ change =>
    match change with
    | .setDefault value => some (.domain baseType (some value) nullable checks)
    | .dropDefault => some (.domain baseType none nullable checks)
    | .setNotNull => some (.domain baseType default? false checks)
    | .dropNotNull => some (.domain baseType default? true checks)
    | .addCheck check =>
      if check.name ∈ checks.map (·.name) then none
      else some (.domain baseType default? nullable (checks ++ [check]))
    | .dropCheck name =>
      if name ∈ checks.map (·.name) then
        some (.domain baseType default? nullable (checks.filter (·.name != name)))
      else none
  | _, _ => none

/-- What is known of a type: its definition, if it is there. -/
abbrev TypeState :=
  Option TypeBody

namespace TypeState

/-- A type after a step, if it can be made.  Steps about other types do not concern it. -/
def step? (address : String) (state : TypeState) (op : Op) : Option TypeState :=
  if op.changedType? = some address then
    match op, state with
    | .createType _ t, none => some (some t.body)
    | .dropType _ domain, some body => if domain = body.isDomain then some none else none
    | op, some body => (body.change? op).map some
    | _, none => none
  else some state

/-- A type after steps, if all of them can be made. -/
def run? (address : String) (state : TypeState) (ops : List Op) : Option TypeState :=
  ops.foldlM (step? address) state

variable {address : String} {state : TypeState}

theorem run?_cons (op : Op) (ops : List Op) :
    run? address state (op :: ops) = (step? address state op).bind (run? address · ops) :=
  rfl

theorem run?_append (a b : List Op) :
    run? address state (a ++ b) = (run? address state a).bind (run? address · b) :=
  List.foldlM_append

theorem run?_trans {a b : List Op} {between after : TypeState}
    (ha : run? address state a = some between) (hb : run? address between b = some after) :
    run? address state (a ++ b) = some after := by
  rw [run?_append, ha]
  exact hb

/-- What is done to others does not concern a type. -/
theorem run?_of_others {ops : List Op} (h : ∀ op ∈ ops, op.changedType? ≠ some address) :
    run? address state ops = some state := by
  induction ops with
  | nil => rfl
  | cons op ops ih =>
    rw [List.forall_mem_cons] at h
    rw [run?_cons, step?.eq_def, if_neg h.1, Option.bind_some, ih h.2]

end TypeState

open TypeState (run? run?_cons step?)

/-! ### Enumerations -/

section Enumerations

variable {address : String} {old new : List String}

theorem splice?_append {anchor : String} {front : List String} (h : anchor ∉ front)
    (others back : List String) :
    splice? anchor others (front ++ anchor :: back) = some (front ++ (others ++ back)) := by
  induction front with
  | nil => rw [List.nil_append, splice?, if_pos rfl, List.nil_append]
  | cons v front ih =>
    rw [List.mem_cons, not_or] at h
    rw [List.cons_append, splice?, if_neg (Ne.symm h.1), ih h.2]
    rfl

theorem step?_addEnumValue (values : List String) (value : String)
    (position : Option EnumPosition) :
    step? address (some (.enum values)) (.addEnumValue address value position) =
      (insertValue? values value position).map fun values => some (.enum values) := by
  exact (if_pos rfl).trans (Option.map_map ..)

/-- A value that is placed in front of the first of the old values after it comes to be where it
belongs. -/
theorem insertValue?_find? {v : String} {front back : List String} {old : List String}
    (hnodup : (front ++ v :: back).Nodup) :
    insertValue? (front ++ back.filter old.contains) v
      ((back.find? old.contains).map .before) = some (front ++ v :: back.filter old.contains) := by
  have hv : v ∉ front ++ back.filter old.contains := by
    intro hm
    refine (List.nodup_cons.1 (List.nodup_middle.1 hnodup)).1 ?_
    rw [List.mem_append] at hm ⊢
    exact hm.imp_right List.mem_of_mem_filter
  rw [insertValue?.eq_def, if_neg hv, ← List.head?_filter]
  cases hback : back.filter old.contains with
  | nil => rw [List.append_nil]; rfl
  | cons anchor rest =>
    have hanchor : anchor ∉ front := by
      intro hm
      have hmem : anchor ∈ back.filter old.contains := hback ▸ List.mem_cons_self
      exact (List.nodup_append'.1 hnodup).2.2 hm
        (List.mem_cons_of_mem _ (List.mem_of_mem_filter hmem))
    exact splice?_append hanchor [v, anchor] rest

/-- **Adding the values one by one** makes the enumeration what it is to be, if it begins with the
values of the new version that have been gone through and goes on with those of the others that are
old. -/
theorem run?_addedValues {back : List String} : ∀ {front : List String}, (front ++ back).Nodup →
    run? address (some (.enum (front ++ back.filter old.contains)))
      ((addedValues old back).map fun (value, position) => .addEnumValue address value position) =
        some (some (.enum (front ++ back))) := by
  induction back with
  | nil => exact fun _ => rfl
  | cons v back ih =>
    intro front hnodup
    have hnext := @ih (front ++ [v]) (by simpa using hnodup)
    rw [List.append_assoc, List.append_assoc, List.singleton_append, List.singleton_append] at hnext
    -- An old value is there already; another goes in front of the first old one that is left.
    by_cases hold : old.contains v = true
    · rw [addedValues, if_pos hold, List.filter_cons_of_pos hold]
      exact hnext
    · rw [addedValues, if_neg hold, List.filter_cons_of_neg hold, List.map_cons, run?_cons,
        step?_addEnumValue, insertValue?_find? hnodup, Option.map_some, Option.bind_some]
      exact hnext

/-- **Which enumerations are extended**: those that keep their values in their order. -/
theorem filter_contains_eq_iff (hold : old.Nodup) (hnew : new.Nodup) :
    new.filter old.contains = old ↔ old.Sublist new := by
  constructor
  · intro he
    rw [← he]
    exact List.filter_sublist
  · intro hsub
    refine (hnew.perm_iff_eq_of_sublist List.filter_sublist hsub).1 ?_
    refine (List.perm_ext_iff_of_nodup (hnew.filter _) hold).2 fun v => ?_
    rw [List.mem_filter, List.contains_iff_mem]
    exact and_iff_right_of_imp fun hm => hsub.subset hm

end Enumerations

/-! ### Domains -/

/-- A check is among others if one of them has its name and says the same. -/
theorem hasCheck_iff {checks : List DomainCheck} {check : DomainCheck} :
    hasCheck checks check = true ↔ ∃ other ∈ checks, other.name = check.name ∧
      Sql.sameExpression other.definition check.definition = true := by
  simp only [hasCheck, List.any_eq_true, Bool.and_eq_true, beq_iff_eq]

theorem hasCheck_of_mem {checks : List DomainCheck} {check : DomainCheck} (h : check ∈ checks) :
    hasCheck checks check = true :=
  hasCheck_iff.2 ⟨check, h, rfl, Sql.sameExpression_refl _⟩

/-- Where names are not repeated, what one of the checks is among is told by its name. -/
theorem hasCheck_of_common {checks others : List DomainCheck}
    (hnames : (checks.map (·.name)).Nodup) {check other : DomainCheck} (hcheck : check ∈ checks)
    (hother : other ∈ others) (hname : other.name = check.name)
    (hkept : hasCheck checks other = true) : hasCheck others check = true := by
  obtain ⟨found, hfound, hsame, hdefinition⟩ := hasCheck_iff.1 hkept
  have he : found = check := by
    refine List.inj_on_of_nodup_map hnames hfound hcheck ?_
    rw [hsame, hname]
  subst he
  exact hasCheck_iff.2 ⟨other, hother, hname, Sql.sameExpression_symm hdefinition⟩

section Domains

variable {address baseType : String} {default? : Option String} {nullable : Bool}
  {checks : List DomainCheck}

theorem run?_alterDomain (change : DomainChange) (changes : List DomainChange) :
    run? address (some (.domain baseType default? nullable checks))
      (((change :: changes).map (.alterDomain address))) =
    ((TypeBody.domain baseType default? nullable checks).change?
      (.alterDomain address change)).bind fun body =>
        run? address (some body) (changes.map (.alterDomain address)) := by
  rw [List.map_cons, run?_cons]
  refine congrArg (Option.bind · _) (if_pos rfl) |>.trans ?_
  exact Option.bind_map ..

/-- **Dropping checks** leaves those of other names. -/
theorem run?_dropChecks {dropped : List DomainCheck} : ∀ {checks : List DomainCheck},
    (dropped.map (·.name)).Nodup → (∀ check ∈ dropped, check.name ∈ checks.map (·.name)) →
    run? address (some (.domain baseType default? nullable checks))
      ((dropped.map fun check => DomainChange.dropCheck check.name).map (.alterDomain address)) =
        some (some (.domain baseType default? nullable
          (checks.filter fun check => check.name ∉ dropped.map (·.name)))) := by
  induction dropped with
  | nil =>
    intro checks _ _
    simp [run?]
  | cons check dropped ih =>
    intro checks hnodup hthere
    rw [List.map_cons, List.nodup_cons] at hnodup
    rw [List.forall_mem_cons] at hthere
    rw [List.map_cons, run?_alterDomain, TypeBody.change?, if_pos hthere.1, Option.bind_some]
    rw [ih hnodup.2, List.filter_filter]
    · congr 4
      funext other
      rw [Bool.eq_iff_iff, List.map_cons]
      simp only [Bool.and_eq_true, decide_eq_true_eq, bne_iff_ne, List.mem_cons, not_or]
      exact and_comm
    · intro other hother
      obtain ⟨found, hfound, hname⟩ := List.mem_map.1 (hthere.2 other hother)
      refine List.mem_map.2 ⟨found, List.mem_filter.2 ⟨hfound, ?_⟩, hname⟩
      rw [hname, bne_iff_ne]
      exact fun he => hnodup.1 (he ▸ List.mem_map_of_mem hother)

/-- **Adding checks** of other names appends them. -/
theorem run?_addChecks {added : List DomainCheck} : ∀ {checks : List DomainCheck},
    ((checks ++ added).map (·.name)).Nodup →
    run? address (some (.domain baseType default? nullable checks))
      ((added.map DomainChange.addCheck).map (.alterDomain address)) =
        some (some (.domain baseType default? nullable (checks ++ added))) := by
  induction added with
  | nil => 
    intro checks _
    rw [List.append_nil]
    rfl
  | cons check added ih =>
    intro checks hnodup
    have hnew : check.name ∉ checks.map (·.name) := by
      rw [List.map_append, List.map_cons, List.nodup_middle, List.nodup_cons] at hnodup
      exact fun hm => hnodup.1 (List.mem_append_left _ hm)
    rw [List.map_cons, run?_alterDomain, TypeBody.change?, if_neg hnew, Option.bind_some]
    rw [ih (by simpa using hnodup), List.append_assoc, List.singleton_append]

/-- The default comes to be that of the new version. -/
theorem exists_run?_default (new? : Option String) : ∃ value?,
    run? address (some (.domain baseType default? nullable checks))
      ((if Sql.sameExpression? default? new? then []
        else [match new? with
          | some value => DomainChange.setDefault value
          | none => .dropDefault]).map (.alterDomain address)) =
      some (some (.domain baseType value? nullable checks)) ∧
    Sql.sameExpression? value? new? = true := by
  by_cases hsame : Sql.sameExpression? default? new? = true
  · rw [if_pos hsame]
    exact ⟨default?, rfl, hsame⟩
  · rw [if_neg hsame]
    refine ⟨new?, ?_, Sql.sameExpression?_refl _⟩
    cases new? <;> exact run?_alterDomain ..

theorem run?_nullable (new : Bool) :
    run? address (some (.domain baseType default? nullable checks))
      ((if nullable == new then [] else [if new then DomainChange.dropNotNull
        else .setNotNull]).map (.alterDomain address)) =
      some (some (.domain baseType default? new checks)) := by
  by_cases he : nullable = new
  · rw [he, beq_self_eq_true, if_pos rfl]
    rfl
  · rw [if_neg (by simpa using he)]
    cases new <;> exact run?_alterDomain ..

/-- What is left when the checks that do not stay are dropped. -/
theorem filter_name_notMem {old new : List DomainCheck} (hold : (old.map (·.name)).Nodup) :
    (old.filter fun check => check.name ∉ (old.filter (!hasCheck new ·)).map (·.name)) =
      old.filter (hasCheck new ·) := by
  refine List.filter_congr fun check hcheck => ?_
  rw [Bool.eq_iff_iff, decide_eq_true_eq, List.mem_map]
  constructor
  · intro hnot
    by_contra hgone
    exact hnot ⟨check, List.mem_filter.2 ⟨hcheck, by simpa using hgone⟩, rfl⟩
  · rintro hkept ⟨other, hother, hname⟩
    rw [List.mem_filter] at hother
    rw [List.inj_on_of_nodup_map hold hother.1 hcheck hname, hkept] at hother
    cases hother.2

end Domains

/-- The definitions of types say the same: those of domains up to how types and expressions are
written and to the order of the checks. -/
def TypeBody.Same : TypeBody → TypeBody → Prop
  | .domain baseType default? nullable checks, .domain baseType' default?' nullable' checks' =>
    Sql.TypeName.same baseType baseType' = true ∧
      Sql.sameExpression? default? default?' = true ∧ nullable = nullable' ∧
      (checks.map (·.name)).Perm (checks'.map (·.name)) ∧
      ∀ check ∈ checks, hasCheck checks' check = true
  | a, b => a = b

theorem TypeBody.Same.refl (body : TypeBody) : body.Same body := by
  cases body with
  | domain baseType default? nullable checks =>
    exact ⟨Sql.TypeName.same_refl _, Sql.sameExpression?_refl _, rfl, .refl _, fun _ =>
      hasCheck_of_mem⟩
  | _ => rfl

/-- An enumeration says the same only if it has the same values in the same order. -/
theorem TypeBody.Same.eq_enum {body : TypeBody} {values : List String}
    (h : body.Same (.enum values)) : body = .enum values := by
  cases body <;> exact h

/-- The checks that stay are those that both versions have, and get along with those that are
new. -/
theorem perm_names_of_common {old new : List DomainCheck} (hold : (old.map (·.name)).Nodup)
    (hnew : (new.map (·.name)).Nodup) :
    (((old.filter (hasCheck new ·)) ++ new.filter (!hasCheck old ·)).map (·.name)).Perm
      (new.map (·.name)) := by
  have hkept : ((old.filter (hasCheck new ·)).map (·.name)).Perm
      ((new.filter (hasCheck old ·)).map (·.name)) := by
    refine (List.perm_ext_iff_of_nodup (hold.sublist (List.filter_sublist.map _))
      (hnew.sublist (List.filter_sublist.map _))).2 fun name => ?_
    simp only [List.mem_map, List.mem_filter]
    constructor
    · rintro ⟨check, ⟨hm, hcheck⟩, rfl⟩
      obtain ⟨other, hother, hname, -⟩ := hasCheck_iff.1 hcheck
      exact ⟨other, ⟨hother, hasCheck_of_common hnew hother hm hname.symm hcheck⟩, hname⟩
    · rintro ⟨check, ⟨hm, hcheck⟩, rfl⟩
      obtain ⟨other, hother, hname, -⟩ := hasCheck_iff.1 hcheck
      exact ⟨other, ⟨hother, hasCheck_of_common hold hother hm hname.symm hcheck⟩, hname⟩
  rw [List.map_append]
  refine (hkept.append_right _).trans ?_
  rw [← List.map_append]
  exact (List.filter_append_perm _ new).map _

/-- The names of the parts of a type: the values of an enumeration and the checks of a domain. -/
def TypeBody.partNames : TypeBody → List String
  | .enum values => values
  | .domain _ _ _ checks => checks.map (·.name)
  | .composite _ => []

/-- **Changing a domain in place** makes it what it is to be. -/
theorem exists_run?_domainChanges {address : String} {old new : TypeBody}
    {changes : List DomainChange} (hold : old.partNames.Nodup) (hnew : new.partNames.Nodup)
    (h : domainChanges? old new = some changes) : ∃ body,
      run? address (some old) (changes.map (.alterDomain address)) = some (some body) ∧
      body.Same new := by
  cases old with
  | domain oldBase oldDefault oldNullable oldChecks =>
    cases new with
    | domain base default? nullable checks =>
      simp only [domainChanges?, Option.ite_none_right_eq_some, Option.some.injEq] at h
      obtain ⟨hbase, rfl⟩ := h
      -- The default first, then the checks that go, whether values may be absent, and new checks.
      obtain ⟨value?, hdefault, hvalue⟩ :=
        @exists_run?_default address oldBase oldDefault oldNullable oldChecks default?
      have hdrops := @run?_dropChecks address oldBase value? oldNullable
        (oldChecks.filter (!hasCheck checks ·)) oldChecks
        (hold.sublist (List.filter_sublist.map _))
        fun check hm => List.mem_map_of_mem (List.mem_of_mem_filter hm)
      rw [filter_name_notMem hold] at hdrops
      have hperm := perm_names_of_common hold hnew
      refine ⟨.domain oldBase value? nullable (oldChecks.filter (hasCheck checks ·) ++
        checks.filter (!hasCheck oldChecks ·)), ?_, hbase, hvalue, rfl, hperm, ?_⟩
      · simp only [List.map_append]
        exact TypeState.run?_trans (TypeState.run?_trans (TypeState.run?_trans hdefault hdrops)
          (run?_nullable nullable)) (run?_addChecks (hperm.nodup_iff.2 hnew))
      · intro check hm
        rcases List.mem_append.1 hm with hm | hm
        · exact (List.mem_filter.1 hm).2
        · exact hasCheck_of_mem (List.mem_of_mem_filter hm)
    | _ => cases h
  | _ => cases h

/-- **Extending an enumeration** gives it the values of the new version in their order. -/
theorem run?_enumAdditions {address : String} {old new : TypeBody}
    {added : List (String × Option EnumPosition)} (hnew : new.partNames.Nodup)
    (h : enumAdditions? old new = some added) :
    run? address (some old)
      (added.map fun (value, position) => .addEnumValue address value position) =
        some (some new) := by
  cases old with
  | enum old =>
    cases new with
    | enum new =>
      simp only [enumAdditions?, Option.ite_none_right_eq_some, beq_iff_eq, Option.some.injEq] at h
      obtain ⟨he, rfl⟩ := h
      have hrun := @run?_addedValues address old new [] hnew
      rw [List.nil_append, he] at hrun
      exact hrun
    | _ => cases h
  | _ => cases h

/-! ### The work on a type -/

/-- A type can become another without being dropped: an enumeration keeps its values in their order,
a domain its base type, and any other type stays as it is. -/
def TypeBody.ChangesInPlace : TypeBody → TypeBody → Prop
  | .enum old, .enum new => old.Sublist new
  | .domain oldBase .., .domain base .. => Sql.TypeName.same oldBase base = true
  | old, new => old = new

theorem requiresRebuild_eq_false_iff {old new : TypeDef} (hold : old.body.partNames.Nodup)
    (hnew : new.body.partNames.Nodup) :
    requiresRebuild old new = false ↔ old.body.ChangesInPlace new.body := by
  rw [requiresRebuild]
  cases hob : old.body with
  | enum oldValues =>
    rw [hob] at hold
    cases hnb : new.body with
    | enum values =>
      rw [hnb] at hnew
      have hiff : _ ↔ oldValues.Sublist values := filter_contains_eq_iff hold hnew
      rw [TypeBody.ChangesInPlace, ← hiff]
      simp only [enumAdditions?, domainChanges?, beq_iff_eq]
      by_cases he : values.filter oldValues.contains = oldValues
      · simp [he]
      · have hne : oldValues ≠ values := by
          rintro rfl
          exact he (hiff.2 (.refl _))
        simp [he, hne]
    | _ => simp [enumAdditions?, domainChanges?, TypeBody.ChangesInPlace]
  | composite oldFields =>
    cases hnb : new.body <;> simp [enumAdditions?, domainChanges?, TypeBody.ChangesInPlace]
  | domain oldBase oldDefault oldNullable oldChecks =>
    cases hnb : new.body with
    | domain base default? nullable checks =>
      simp only [enumAdditions?, domainChanges?, TypeBody.ChangesInPlace]
      by_cases hbase : Sql.TypeName.same oldBase base = true
      · simp [hbase]
      · have hne : oldBase ≠ base := by
          rintro rfl
          exact hbase (Sql.TypeName.same_refl _)
        simp [hbase, hne]
    | _ => simp [enumAdditions?, domainChanges?, TypeBody.ChangesInPlace]

namespace Comparison

variable {c : Comparison} {schema : String} {old t : TypeDef} {ops : List Op}

/-- What is done about a type that both versions have. -/
inductive TypeWork (c : Comparison) (schema : String) (old t : TypeDef) :
    Except SchemaError (List Op) → Prop where
  | same (h : old.body = t.body) : TypeWork c schema old t (.ok [])
  | extended {added : List (String × Option EnumPosition)}
      (h : enumAdditions? old.body t.body = some added) :
      TypeWork c schema old t (.ok (added.map fun (value, position) =>
        .addEnumValue (Sql.qualified schema t.name) value position))
  | altered {changes : List DomainChange} (h : domainChanges? old.body t.body = some changes) :
      TypeWork c schema old t (.ok (changes.map (.alterDomain (Sql.qualified schema t.name))))
  | rebuilt (h : requiresRebuild old t = true) :
      TypeWork c schema old t (c.rebuildType schema old t)

theorem typeWork (hold : (c.oldSchema? schema).bind (·.type? t.name) = some old) :
    c.TypeWork schema old t (c.typeOps schema t) := by
  cases hrebuild : requiresRebuild old t with
  | true =>
    rw [typeOps_of_rebuild hold hrebuild]
    exact .rebuilt hrebuild
  | false =>
    rw [typeOps, hold]
    dsimp only
    by_cases hsame : old.body = t.body
    · rw [if_pos (by simpa using hsame)]
      exact .same hsame
    · rw [if_neg (by simpa using hsame)]
      cases henum : enumAdditions? old.body t.body with
      | some added => exact .extended henum
      | none =>
        cases hdomain : domainChanges? old.body t.body with
        | some changes => exact .altered hdomain
        | none =>
          simp [requiresRebuild, hsame, henum, hdomain] at hrebuild

theorem exists_of_rebuildType (h : c.rebuildType schema old t = .ok ops) :
    ∃ columns : List FoundColumn,
      ops = columns.flatMap (parkColumn c.style (placeholder old.body)) ++
        [.dropType (Sql.qualified schema t.name) old.body.isDomain, .createType schema t] ++
        columns.flatMap
          (restoreColumn c.style (c.style.object schema t.name) (!t.body.isDomain)) := by
  unfold rebuildType at h
  dsimp only at h
  split at h <;>
  · obtain ⟨columns, -, he⟩ := bind_eq_ok.1 h
    exact ⟨columns, (pure_eq_ok.1 he).symm⟩

/-- A type that is dropped can be created as another. -/
theorem run?_recreate (body : TypeBody) : run? (Sql.qualified schema t.name) (some body)
    [.dropType (Sql.qualified schema t.name) body.isDomain, .createType schema t] =
      some (some t.body) := by
  have hdrop : step? (Sql.qualified schema t.name) (some body)
      (.dropType (Sql.qualified schema t.name) body.isDomain) = some none :=
    (if_pos rfl).trans (if_pos rfl)
  have hcreate : step? (Sql.qualified schema t.name) none (.createType schema t) =
      some (some t.body) := if_pos rfl
  rw [run?_cons, hdrop, Option.bind_some, run?_cons, hcreate]
  rfl

/-- A change of a column is not about a type. -/
theorem changedType?_of_columnChange {op : Op} (h : op.columnChange?.isSome) :
    op.changedType? = none := by
  cases op <;> first | rfl | cases h

/-- What is done to a type in place adds values or changes a domain. -/
theorem inPlace_of_typeOps (hold : (c.oldSchema? schema).bind (·.type? t.name) = some old)
    (hrebuild : requiresRebuild old t = false) (h : c.typeOps schema t = .ok ops) {op : Op}
    (hop : op ∈ ops) :
    (∃ value position, op = .addEnumValue (Sql.qualified schema t.name) value position) ∨
      ∃ change, op = .alterDomain (Sql.qualified schema t.name) change := by
  have hwork := typeWork hold
  generalize c.typeOps schema t = result at h hwork
  cases hwork with
  | same =>
    cases h
    cases hop
  | extended =>
    cases h
    obtain ⟨⟨value, position⟩, -, rfl⟩ := List.mem_map.1 hop
    exact .inl ⟨value, position, rfl⟩
  | altered =>
    cases h
    obtain ⟨change, -, rfl⟩ := List.mem_map.1 hop
    exact .inr ⟨change, rfl⟩
  | rebuilt htrue => cases hrebuild.symm.trans htrue

/-- The work on a type changes no other type. -/
theorem changedType?_of_typeOps (h : c.typeOps schema t = .ok ops) {op : Op} (hop : op ∈ ops) :
    op.changedType? = none ∨ op.changedType? = some (Sql.qualified schema t.name) := by
  cases hold : (c.oldSchema? schema).bind (·.type? t.name) with
  | none =>
    rw [typeOps, hold] at h
    cases h
    rw [List.mem_singleton.1 hop]
    exact .inr rfl
  | some old =>
    cases hrebuild : requiresRebuild old t with
    | true =>
      obtain ⟨columns, rfl⟩ :=
        exists_of_rebuildType ((typeOps_of_rebuild hold hrebuild).symm.trans h)
      simp only [List.mem_append, List.mem_cons, List.not_mem_nil, or_false] at hop
      rcases hop with (hop | rfl | rfl) | hop
      · exact .inl (changedType?_of_columnChange (isSome_columnChange?_of_park hop))
      · exact .inr rfl
      · exact .inr rfl
      · exact .inl (changedType?_of_columnChange (isSome_columnChange?_of_restore hop))
    | false =>
      rcases inPlace_of_typeOps hold hrebuild h hop with ⟨_, _, rfl⟩ | ⟨_, rfl⟩
      · exact .inr rfl
      · exact .inr rfl

/-- A type that has to be rebuilt is dropped and created. -/
theorem recreates_typeOps (hold : (c.oldSchema? schema).bind (·.type? t.name) = some old)
    (hrebuild : requiresRebuild old t = true) (h : c.typeOps schema t = .ok ops) :
    [.dropType (Sql.qualified schema t.name) old.body.isDomain, .createType schema t] <:+:
      ops := by
  obtain ⟨columns, rfl⟩ := exists_of_rebuildType ((typeOps_of_rebuild hold hrebuild).symm.trans h)
  exact ⟨_, _, rfl⟩

/-- **The work on a type** makes it what it is to be. -/
theorem run?_typeOps (hold : (c.oldSchema? schema).bind (·.type? t.name) = some old)
    (holdParts : old.body.partNames.Nodup) (hparts : t.body.partNames.Nodup)
    (h : c.typeOps schema t = .ok ops) :
    ∃ body, run? (Sql.qualified schema t.name) (some old.body) ops = some (some body) ∧
      body.Same t.body := by
  have hwork := typeWork hold
  generalize c.typeOps schema t = result at h hwork
  cases hwork with
  | same hsame =>
    cases h
    exact ⟨old.body, rfl, hsame ▸ .refl _⟩
  | extended henum =>
    cases h
    exact ⟨t.body, run?_enumAdditions hparts henum, .refl _⟩
  | altered hdomain =>
    cases h
    exact exists_run?_domainChanges holdParts hparts hdomain
  | rebuilt hrebuild =>
    obtain ⟨columns, rfl⟩ := exists_of_rebuildType h
    have hcolumns : ∀ {body : TypeBody} {ops : List Op}, (∀ op ∈ ops, op.columnChange?.isSome) →
        run? (Sql.qualified schema t.name) (some body) ops = some (some body) := by
      intro body ops h
      refine TypeState.run?_of_others fun op hop he => ?_
      cases (changedType?_of_columnChange (h op hop)).symm.trans he
    refine ⟨t.body, ?_, .refl _⟩
    exact TypeState.run?_trans (TypeState.run?_trans
      (hcolumns fun _ => isSome_columnChange?_of_park) (run?_recreate old.body))
      (hcolumns fun _ => isSome_columnChange?_of_restore)

/-- The work on a type comes to an end. -/
theorem exists_typeOps (hc : c.WellMade) (schema : String) (t : TypeDef) :
    ∃ ops, c.typeOps schema t = .ok ops := by
  cases hold : (c.oldSchema? schema).bind (·.type? t.name) with
  | none =>
    rw [typeOps, hold]
    exact ⟨_, rfl⟩
  | some old =>
    have hwork := typeWork hold
    generalize c.typeOps schema t = result at hwork
    cases hwork with
    | same => exact ⟨_, rfl⟩
    | extended => exact ⟨_, rfl⟩
    | altered => exact ⟨_, rfl⟩
    | rebuilt =>
      obtain ⟨s, hs, -⟩ := Option.bind_eq_some_iff.1 hold
      obtain ⟨db, hdb, -⟩ := Option.bind_eq_some_iff.1 hs
      exact ⟨_, rebuildType_eq hc hdb⟩

theorem exists_schemaTypeOps (hc : c.WellMade) (s : Schema) :
    ∃ ops, c.schemaTypeOps s = .ok ops := by
  choose own hown using exists_typeOps hc s.name
  refine ⟨(s.types.map own).flatten, ?_⟩
  rw [schemaTypeOps, mapM_eq_ok_map fun t _ => hown t]
  rfl

/-- The work on a type stands among the work on the types of its schema, and what is done to the
others does not concern it. -/
theorem exists_of_schemaTypeOps {s : Schema} (hnames : (s.types.map (·.name)).Nodup)
    (hm : t ∈ s.types) (h : c.schemaTypeOps s = .ok ops) : ∃ before own after,
      ops = before ++ own ++ after ∧ c.typeOps s.name t = .ok own ∧
      ∀ op ∈ before ++ after, op.changedType? ≠ some (Sql.qualified s.name t.name) := by
  obtain ⟨front, back, he⟩ := List.append_of_mem hm
  rw [he, List.map_append, List.map_cons, List.nodup_middle, List.nodup_cons, ← List.map_append]
    at hnames
  have hothers : ∀ {others : List TypeDef} {parts : List (List Op)}, others ⊆ front ++ back →
      others.mapM (c.typeOps s.name) = .ok parts →
      ∀ op ∈ parts.flatten, op.changedType? ≠ some (Sql.qualified s.name t.name) := by
    intro others parts hsub hparts op hop habout
    obtain ⟨part, hpart, hop⟩ := List.mem_flatten.1 hop
    obtain ⟨u, hu, hwork⟩ := exists_source_of_mapM hparts hpart
    rcases changedType?_of_typeOps hwork hop with hnone | hsome
    · cases hnone.symm.trans habout
    · have hname := Sql.name_of_qualified_eq (Option.some.inj (hsome.symm.trans habout))
      exact hnames.1 (hname ▸ List.mem_map_of_mem (hsub hu))
  rw [schemaTypeOps, he, List.mapM_append, List.mapM_cons] at h
  simp only [bind_eq_ok, pure_eq_ok] at h
  obtain ⟨_, ⟨before, hbefore, _, ⟨own, hown, after, hafter, rfl⟩, rfl⟩, rfl⟩ := h
  refine ⟨before.flatten, own, after.flatten, ?_, hown, ?_⟩
  · rw [List.flatten_append, List.flatten_cons, List.append_assoc]
  · intro op hop
    rcases List.mem_append.1 hop with hop | hop
    · exact hothers (List.subset_append_left _ _) hbefore op hop
    · exact hothers (List.subset_append_right _ _) hafter op hop

end Comparison

/-- **Types become what they are to be.**  A type can be changed in place exactly if it is an
enumeration that keeps its values in their order, a domain that keeps its base type, or not changed
at all.  Otherwise, and only then, the work on the types of its schema drops it and creates it
again.  In either case the operations can be carried out in their order, and make the old definition
into the new one: each value goes in front of one that is there, a check that is dropped is there,
and one that is added is not. -/
theorem types_changed {c : Comparison} {s : Schema} {t old : TypeDef}
    (hnames : (s.types.map (·.name)).Nodup) (hm : t ∈ s.types)
    (hold : (c.oldSchema? s.name).bind (·.type? t.name) = some old)
    (holdParts : old.body.partNames.Nodup) (hparts : t.body.partNames.Nodup) :
    (requiresRebuild old t = false ↔ old.body.ChangesInPlace t.body) ∧
    (c.WellMade → ∃ ops, c.schemaTypeOps s = .ok ops) ∧
    ∀ ops, c.schemaTypeOps s = .ok ops →
      (∃ body, run? (Sql.qualified s.name t.name) (some old.body) ops = some (some body) ∧
        body.Same t.body) ∧
      (requiresRebuild old t = true ↔
        [.dropType (Sql.qualified s.name t.name) old.body.isDomain, .createType s.name t] <:+:
          ops) ∧
      (requiresRebuild old t = true ↔
        ∃ domain, .dropType (Sql.qualified s.name t.name) domain ∈ ops) := by
  refine ⟨requiresRebuild_eq_false_iff holdParts hparts,
    fun hc => Comparison.exists_schemaTypeOps hc s, fun ops hops => ?_⟩
  obtain ⟨before, own, after, rfl, hown, hothers⟩ :=
    Comparison.exists_of_schemaTypeOps hnames hm hops
  obtain ⟨body, hrun, hbody⟩ := Comparison.run?_typeOps hold holdParts hparts hown
  have hbefore := fun op hop => hothers op (List.mem_append_left after hop)
  have hafter := fun op hop => hothers op (List.mem_append_right before hop)
  -- Only the work on the type itself could drop it, and does so to rebuild it.
  have hdropped : (∃ domain, .dropType (Sql.qualified s.name t.name) domain ∈
      before ++ own ++ after) → requiresRebuild old t = true := by
    rintro ⟨domain, hdrop⟩
    by_contra hfalse
    rw [Bool.not_eq_true] at hfalse
    rcases List.mem_append.1 hdrop with hdrop | hdrop
    · rcases List.mem_append.1 hdrop with hdrop | hdrop
      · exact hbefore _ hdrop rfl
      · rcases Comparison.inPlace_of_typeOps hold hfalse hown hdrop with ⟨_, _, he⟩ | ⟨_, he⟩
        · cases he
        · cases he
    · exact hafter _ hdrop rfl
  have hrecreated := fun hrebuild =>
    (Comparison.recreates_typeOps hold hrebuild hown).trans ⟨before, after, rfl⟩
  refine ⟨⟨body, ?_, hbody⟩, ⟨hrecreated, fun h => hdropped ⟨_, h.subset List.mem_cons_self⟩⟩,
    fun h => ⟨_, (hrecreated h).subset List.mem_cons_self⟩, hdropped⟩
  exact TypeState.run?_trans (TypeState.run?_trans (TypeState.run?_of_others hbefore) hrun)
    (TypeState.run?_of_others hafter)

/-! ### A wardrobe -/

/-- The sizes of clothes. -/
def Wardrobe.size (values : List String) : TypeDef where
  name := "size"
  body := .enum values

/-- The prices of clothes, of which something is known. -/
def Wardrobe.price (default? : Option String) (nullable : Bool) (checks : List DomainCheck) :
    TypeDef where
  name := "price"
  body := .domain "numeric" default? nullable checks

/-- A wardrobe with sizes and prices. -/
def Wardrobe.schema (size price : TypeDef) : Schema where
  name := "wardrobe"
  types := [size, price]

/-- Clothes are small or large, and may cost anything above nothing. -/
def Wardrobe.first : Schema :=
  Wardrobe.schema (Wardrobe.size ["small", "large"])
    (Wardrobe.price (some "1") true [⟨"positive", "VALUE > 0"⟩, ⟨"round", "VALUE % 5 = 0"⟩])

/-- There are more sizes; prices may not be absent, and are above one. -/
def Wardrobe.second : Schema :=
  Wardrobe.schema (Wardrobe.size ["tiny", "small", "medium", "large", "huge"])
    (Wardrobe.price none false [⟨"round", "VALUE  %  5 = 0"⟩, ⟨"positive", "VALUE > 1"⟩])

/-- What makes the types of the first wardrobe into those of the second. -/
def Wardrobe.changes : List Op := [
  .addEnumValue "wardrobe.size" "tiny" (some (.before "small")),
  .addEnumValue "wardrobe.size" "medium" (some (.before "large")),
  .addEnumValue "wardrobe.size" "huge" none,
  .alterDomain "wardrobe.price" .dropDefault,
  .alterDomain "wardrobe.price" (.dropCheck "positive"),
  .alterDomain "wardrobe.price" .setNotNull,
  .alterDomain "wardrobe.price" (.addCheck ⟨"positive", "VALUE > 1"⟩)]

/-- **The wardrobe is changed in place**: values are added where they belong, and a check is dropped
before another of its name is added. -/
theorem types_changed_of_wardrobe :
    ∃ c, Comparison.make (some ⟨[Wardrobe.first], []⟩) ⟨[Wardrobe.second], []⟩ none none {} {} =
        .ok c ∧
      c.schemaTypeOps Wardrobe.second = .ok Wardrobe.changes ∧
      run? "wardrobe.size" (some (.enum ["small", "large"])) Wardrobe.changes =
        some (some (.enum ["tiny", "small", "medium", "large", "huge"])) ∧
      (∀ domain, .dropType "wardrobe.size" domain ∉ Wardrobe.changes) ∧
      ∃ body, run? "wardrobe.price" (some (.domain "numeric" (some "1") true
          [⟨"positive", "VALUE > 0"⟩, ⟨"round", "VALUE % 5 = 0"⟩])) Wardrobe.changes =
          some (some body) ∧
        body.Same (.domain "numeric" none false
          [⟨"round", "VALUE  %  5 = 0"⟩, ⟨"positive", "VALUE > 1"⟩]) := by
  have hwork : (do
      let c ← Comparison.make (some ⟨[Wardrobe.first], []⟩) ⟨[Wardrobe.second], []⟩ none none {} {}
      let ops ← c.schemaTypeOps Wardrobe.second
      return (ops, c.oldSchema? "wardrobe")) = .ok (Wardrobe.changes, some Wardrobe.first) := by
    decide +kernel
  obtain ⟨c, hmake, hwork⟩ := bind_eq_ok.1 hwork
  obtain ⟨ops, hops, hwork⟩ := bind_eq_ok.1 hwork
  obtain ⟨rfl, hfirst⟩ := Prod.mk.inj (pure_eq_ok.1 hwork)
  have hold : ∀ name, (c.oldSchema? Wardrobe.second.name).bind (·.type? name) =
      Wardrobe.first.type? name := by
    intro name
    exact congrArg (Option.bind · _) hfirst
  have hnames : (Wardrobe.second.types.map (·.name)).Nodup := by decide
  have hsize : Wardrobe.first.type? "size" = some (Wardrobe.size ["small", "large"]) := by decide
  have hprice : Wardrobe.first.type? "price" = some (Wardrobe.price (some "1") true
      [⟨"positive", "VALUE > 0"⟩, ⟨"round", "VALUE % 5 = 0"⟩]) := by
    decide
  obtain ⟨-, -, hsizes⟩ := types_changed hnames List.mem_cons_self ((hold "size").trans hsize)
    (by decide) (by decide)
  obtain ⟨-, -, hprices⟩ := types_changed hnames (List.mem_cons_of_mem _ List.mem_cons_self)
    ((hold "price").trans hprice) (by decide) (by decide)
  obtain ⟨⟨body, hrun, hsame⟩, -, hdropped⟩ := hsizes _ hops
  rw [hsame.eq_enum] at hrun
  refine ⟨c, hmake, hops, hrun, fun domain hdrop => ?_, (hprices _ hops).1⟩
  have hrebuild := hdropped.2 ⟨domain, hdrop⟩
  revert hrebuild
  decide +kernel

end SchemaPlan
