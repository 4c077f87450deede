import SchemaPlan.Proofs.Correspondence
import SchemaPlan.Proofs.Kinds
import SchemaPlan.Proofs.StaticRows

/-!
# Static rows are reconciled exactly

The operations on the static rows of a table are carried out on the rows that were there, seen from
the new version (`oldRows`), and lead to the rows that should be there (`Agrees`).  `Reconciles` says
so and adds what each operation is for: rows are deleted exactly when they are not wanted any more,
each other operation inserts or updates the row that it is for, and no row is touched twice.

What the single operations do to their rows is said first (`effect_delete`, `effect_upsert`).  Since no
row is touched twice, they do the same when they are carried out one after the other, and
`reconciles` follows by looking at each row: it is deleted, or inserted or updated, or left alone.
`rows_reconciled` is the main statement.
-/

namespace SchemaPlan

namespace Comparison

/-! ### Rows as they were and as they should be -/

/-- The static rows of the table that a table continues, if it continues one that has any. -/
def previousRows (c : Comparison) (schema : String) (table : Table) :
    Except SchemaError (Option StaticRows) :=
  match c.old, c.oldVersion? schema table.name with
  | some db, some (oldSchema, oldTable) => StaticRows.ofTable db oldSchema.name oldTable
  | _, _ => .ok none

/-- The rows that were there, with their values in the columns of the new version. -/
def oldRows (c : Comparison) (new : StaticRows) (old : Option StaticRows) : RowState :=
  fun identity => old.bind fun o => (o.find? identity).map (c.seen new o)

/-- There was a row that counts as this. -/
def OldHas (old : Option StaticRows) (identity : List String) : Prop :=
  ∃ o, old = some o ∧ o.Has identity

/-- The rows are those that should be there, with the values that they should have. -/
structure Agrees (new : StaticRows) (rows : RowState) : Prop where
  isSome_iff : ∀ identity, (rows identity).isSome ↔ new.Has identity
  fits : ∀ row ∈ new.present, ∃ cells, rows (new.identity row) = some cells ∧ new.Fits row cells

/-- The operation brings a row into the new version: it is inserted if it was not there and updated
if it was. -/
def IsUpsert (c : Comparison) (address : String) (new : StaticRows) (old : Option StaticRows)
    (row : Row) (op : Op) : Prop :=
  (¬ OldHas old (new.identity row) ∧ IsInsert address new row op) ∨
    ∃ o previous assignments, old = some o ∧ previous ∈ o.present ∧
      o.identity previous = new.identity row ∧
      c.IsUpdate address new o row previous assignments op

/-- Deletions followed by insertions and updates make the old rows into the new ones, and each row
is touched once at most. -/
structure Reconciles (c : Comparison) (address : String) (new : StaticRows)
    (old : Option StaticRows) (deletes upserts : List RowStep) : Prop where
  once : ((deletes ++ upserts).map (·.identity)).Nodup
  mem_deletes : ∀ identity, identity ∈ deletes.map (·.identity) ↔
    OldHas old identity ∧ ¬ new.Has identity
  of_deletes : ∀ step ∈ deletes, ∃ o, old = some o ∧ ∃ row ∈ o.present,
    o.identity row = step.identity ∧ IsDelete address new o row step.op
  of_upserts : ∀ step ∈ upserts, ∃ row ∈ new.present, new.identity row = step.identity ∧
    c.IsUpsert address new old row step.op
  exact : ∃ final, (c.oldRows new old).run (deletes ++ upserts) = some final ∧ Agrees new final

/-- No two rows on either side count as the same. -/
structure Keyed (new : StaticRows) (old : Option StaticRows) : Prop where
  new : (new.present.map new.identity).Nodup
  old : ∀ o, old = some o → (o.present.map o.identity).Nodup

section Effects

variable {c : Comparison} {address : String} {new : StaticRows} {old : Option StaticRows}

theorem oldRows_of_mem (hkeyed : Keyed new old) {o : StaticRows} (ho : old = some o) {row : Row}
    (hrow : row ∈ o.present) : c.oldRows new old (o.identity row) = some (c.seen new o row) := by
  have hfind : o.find? (o.identity row) = some row :=
    (o.find?_eq_some_iff (hkeyed.old o ho)).2 ⟨hrow, rfl⟩
  rw [oldRows, ho, Option.bind_some, hfind, Option.map_some]

theorem isSome_oldRows_iff (hkeyed : Keyed new old) {identity : List String} :
    (c.oldRows new old identity).isSome ↔ OldHas old identity := by
  cases ho : old with
  | none => simp [oldRows, OldHas]
  | some o =>
    rw [oldRows, Option.bind_some, Option.isSome_map, o.isSome_find?_iff (hkeyed.old o ho)]
    simp [OldHas]

/-! ### What each operation does to its row -/

theorem effect_delete (hkeyed : Keyed new old) {o : StaticRows} (ho : old = some o) {row : Row}
    (hrow : row ∈ o.present) {op : Op} (h : IsDelete address new o row op) :
    rowEffect op (c.oldRows new old (o.identity row)) = some none := by
  obtain ⟨key, _, rfl⟩ := h
  rw [oldRows_of_mem hkeyed ho hrow]
  rfl

/-- Values given to columns one by one are found under them. -/
theorem lookup_zip_of_forall₂ {P : String → String → Prop} {columns values : List String}
    (h : List.Forall₂ P columns values) {column : String} (hc : column ∈ columns) :
    ∃ value, (columns.zip values).lookup column = some value ∧ P column value := by
  induction h with
  | nil => simp at hc
  | @cons first value columns values hfirst _ ih =>
    rw [List.zip_cons_cons, List.lookup_cons]
    by_cases he : column = first
    · subst he
      exact ⟨value, by simp, hfirst⟩
    · obtain ⟨v, hv, hp⟩ := ih ((List.mem_cons.1 hc).resolve_left he)
      rw [beq_false_of_ne he]
      exact ⟨v, hv, hp⟩

theorem effect_insert {row : Row} {op : Op} (h : IsInsert address new row op) :
    ∃ cells, rowEffect op none = some (some cells) ∧ new.Fits row cells := by
  obtain ⟨values, hvalues, rfl⟩ := h
  refine ⟨_, rfl, fun column hcolumn => ?_⟩
  obtain ⟨value, hlookup, hvalue⟩ := lookup_zip_of_forall₂ hvalues hcolumn.1
  exact ⟨value, hvalue, by rw [RowCells.assign, hlookup, Option.some_or]⟩

theorem effect_update {o : StaticRows} {row previous : Row} {assignments : Assignments} {op : Op}
    (h : c.IsUpdate address new o row previous assignments op) :
    ∃ cells, rowEffect op (some (c.seen new o previous)) = some (some cells) ∧
      new.Fits row cells := by
  obtain ⟨key, was, _, rfl, _⟩ := h.eq_op
  refine ⟨_, rfl, fun column hcolumn => ?_⟩
  obtain ⟨value, hvalue⟩ := h.values column hcolumn
  refine ⟨value, hvalue, ?_⟩
  rw [RowCells.assign]
  cases hlookup : assignments.lookup column with
  | some v =>
    -- What is assigned to a column can only be the value that the row has in it.
    obtain ⟨front, back, he, _⟩ := List.lookup_eq_some_iff.1 hlookup
    have hv := ((h.mem_iff column v).1 (by rw [he]; simp)).2.1
    rw [Option.some_or, ← Except.ok.inj (hvalue.symm.trans hv)]
  | none =>
    rw [Option.none_or]
    by_contra hne
    have hmem := (h.mem_iff column value).2 ⟨hcolumn, hvalue, hne⟩
    exact absurd (List.lookup_eq_none_iff.1 hlookup _ hmem) (by simp)

theorem effect_upsert (hkeyed : Keyed new old) {row : Row} {op : Op}
    (h : c.IsUpsert address new old row op) :
    ∃ cells, rowEffect op (c.oldRows new old (new.identity row)) = some (some cells) ∧
      new.Fits row cells := by
  rcases h with ⟨hnew, hinsert⟩ | ⟨o, previous, _, ho, hprevious, hidentity, hupdate⟩
  · have hnone : c.oldRows new old (new.identity row) = none := by
      rw [← Option.not_isSome_iff_eq_none, isSome_oldRows_iff hkeyed]
      exact hnew
    rw [hnone]
    exact effect_insert hinsert
  · rw [← hidentity, oldRows_of_mem hkeyed ho hprevious]
    exact effect_update hupdate

end Effects

/-! ### Row by row -/

/-- The operations that rows contribute, one at most each, as steps for these rows. -/
theorem exists_steps (identity : Row → List String) {P : Row → Op → Prop} {Q : Row → Prop}
    {rows : List Row} {opss : List (List Op)}
    (h : List.Forall₂ (fun row ops => (∃ op, ops = [op] ∧ P row op) ∨ (ops = [] ∧ Q row))
      rows opss) :
    ∃ steps : List RowStep, steps.map (·.op) = opss.flatten ∧
      (steps.map (·.identity)).Sublist (rows.map identity) ∧
      (∀ step ∈ steps, ∃ row ∈ rows, identity row = step.identity ∧ P row step.op) ∧
      ∀ row ∈ rows, identity row ∈ steps.map (·.identity) ∨ Q row := by
  induction h with
  | nil => exact ⟨[], rfl, List.Sublist.refl _, by simp, by simp⟩
  | @cons row ops rows opss hrow _ ih =>
    obtain ⟨steps, hops, hsub, hsteps, hrows⟩ := ih
    have hsteps' : ∀ step ∈ steps, ∃ r ∈ row :: rows, identity r = step.identity ∧ P r step.op := by
      intro step hstep
      obtain ⟨r, hr, hspec⟩ := hsteps step hstep
      exact ⟨r, List.mem_cons_of_mem _ hr, hspec⟩
    rcases hrow with ⟨op, rfl, hp⟩ | ⟨rfl, hq⟩
    · refine ⟨⟨identity row, op⟩ :: steps, ?_, hsub.cons_cons _, ?_, ?_⟩
      · rw [List.map_cons, hops]
        rfl
      · exact List.forall_mem_cons.2 ⟨⟨row, List.mem_cons_self, rfl, hp⟩, hsteps'⟩
      · refine List.forall_mem_cons.2 ⟨.inl List.mem_cons_self, fun r hr => ?_⟩
        exact (hrows r hr).imp_left (List.mem_cons_of_mem _)
    · refine ⟨steps, hops, hsub.cons _, hsteps', List.forall_mem_cons.2 ⟨.inr hq, hrows⟩⟩

theorem exists_deletes {address : String} {new o : StaticRows} {ops : List Op}
    (hnew : (new.present.map new.identity).Nodup) (ho : (o.present.map o.identity).Nodup)
    (h : deleteRows address new o = .ok ops) :
    ∃ steps : List RowStep, steps.map (·.op) = ops ∧ (steps.map (·.identity)).Nodup ∧
      (∀ identity, identity ∈ steps.map (·.identity) ↔ o.Has identity ∧ ¬ new.Has identity) ∧
      ∀ step ∈ steps, ∃ row ∈ o.present, o.identity row = step.identity ∧
        IsDelete address new o row step.op := by
  rw [deleteRows, mapM_eq_ok] at h
  have hrows : List.Forall₂ (fun row ops => (∃ op, ops = [op] ∧ IsDelete address new o row op) ∨
      (ops = [] ∧ False)) (o.present.filter fun row => (new.find? (o.identity row)).isNone)
        (ops.map fun op => [op]) := by
    rw [List.forall₂_map_right_iff]
    refine h.imp fun row op hop => .inl ⟨op, rfl, ?_⟩
    obtain ⟨key, hkey, he⟩ := bind_eq_ok.1 hop
    exact ⟨key, hkey, (pure_eq_ok.1 he).symm⟩
  have hunwanted : ∀ row, row ∈ o.present.filter (fun row => (new.find? (o.identity row)).isNone) ↔
      row ∈ o.present ∧ ¬ new.Has (o.identity row) := by
    intro row
    rw [List.mem_filter, Option.isNone_iff_eq_none, new.find?_eq_none_iff hnew]
  obtain ⟨steps, hops, hsub, hsteps, hall⟩ := exists_steps o.identity hrows
  refine ⟨steps, ?_, ho.sublist (hsub.trans (List.filter_sublist.map _)), ?_, ?_⟩
  · rw [hops, ← List.flatMap_def, List.flatMap_singleton']
  · intro identity
    constructor
    · intro hi
      obtain ⟨step, hstep, rfl⟩ := List.mem_map.1 hi
      obtain ⟨row, hrow, hidentity, _⟩ := hsteps step hstep
      obtain ⟨hrow, hnot⟩ := (hunwanted row).1 hrow
      rw [hidentity] at hnot
      exact ⟨⟨row, hrow, hidentity⟩, hnot⟩
    · rintro ⟨⟨row, hrow, rfl⟩, hnot⟩
      exact (hall row ((hunwanted row).2 ⟨hrow, hnot⟩)).resolve_right id
  · intro step hstep
    obtain ⟨row, hrow, hspec⟩ := hsteps step hstep
    exact ⟨row, ((hunwanted row).1 hrow).1, hspec⟩

/-- A row is inserted or updated, or it was there already with the values it should have. -/
theorem upsertRow_eq_ok {c : Comparison} {address : String} {new : StaticRows}
    {old : Option StaticRows} (hkeyed : Keyed new old) {row : Row} {ops : List Op}
    (h : c.upsertRow address new old row = .ok ops) :
    (∃ op, ops = [op] ∧ c.IsUpsert address new old row op) ∨
      (ops = [] ∧ ∃ cells, c.oldRows new old (new.identity row) = some cells ∧
        new.Fits row cells) := by
  have hinsert : ¬ OldHas old (new.identity row) → insertRow address new row = .ok ops →
      ∃ op, ops = [op] ∧ c.IsUpsert address new old row op := by
    intro hnot hops
    obtain ⟨op, he, hop⟩ := insertRow_eq_ok hops
    exact ⟨op, he, .inl ⟨hnot, hop⟩⟩
  unfold upsertRow at h
  split at h
  · refine .inl (hinsert ?_ h)
    rintro ⟨o, ho, _⟩
    cases ho
  next o =>
    split at h
    next hnone =>
      refine .inl (hinsert ?_ h)
      rintro ⟨_, ho, hhas⟩
      cases ho
      exact (o.find?_eq_none_iff (hkeyed.old o rfl)).1 hnone hhas
    next previous hfind =>
      obtain ⟨hprevious, hidentity⟩ := (o.find?_eq_some_iff (hkeyed.old o rfl)).1 hfind
      rcases updateRow_eq_ok h with ⟨op, he, assignments, hupdate⟩ | ⟨he, hfits⟩
      · exact .inl ⟨op, he, .inr ⟨o, previous, assignments, rfl, hprevious, hidentity, hupdate⟩⟩
      · refine .inr ⟨he, c.seen new o previous, ?_, hfits⟩
        rw [← hidentity]
        exact oldRows_of_mem hkeyed rfl hprevious

theorem exists_upserts {c : Comparison} {address : String} {new : StaticRows}
    {old : Option StaticRows} (hkeyed : Keyed new old) {ops : List Op}
    (h : c.upsertRows address new old = .ok ops) :
    ∃ (steps : List RowStep) (after : List Op), ops = steps.map (·.op) ++ after ∧
      OfKinds [.setSerialValue] after ∧ (steps.map (·.identity)).Nodup ∧
      (∀ step ∈ steps, ∃ row ∈ new.present, new.identity row = step.identity ∧
        c.IsUpsert address new old row step.op) ∧
      ∀ row ∈ new.present, new.identity row ∈ steps.map (·.identity) ∨
        ∃ cells, c.oldRows new old (new.identity row) = some cells ∧ new.Fits row cells := by
  simp only [upsertRows, bind_eq_ok, pure_eq_ok] at h
  obtain ⟨opss, hopss, rfl⟩ := h
  have hrows := (mapM_eq_ok.1 hopss).imp fun _ _ hops => upsertRow_eq_ok hkeyed hops
  obtain ⟨steps, hops, hsub, hsteps, hall⟩ := exists_steps new.identity hrows
  refine ⟨steps, _, by rw [hops], ?_, hkeyed.new.sublist hsub, hsteps, hall⟩
  exact ofKinds_ite (ofKinds_advanceKey _ _) ofKinds_nil

section Reconciliation

variable {c : Comparison} {address : String} {new : StaticRows} {old : Option StaticRows}
  {deletes upserts : List RowStep}
  (hupserts : ∀ step ∈ upserts, ∃ row ∈ new.present, new.identity row = step.identity ∧
    c.IsUpsert address new old row step.op)

include hupserts

theorem has_of_mem_upserts {identity : List String} (h : identity ∈ upserts.map (·.identity)) :
    new.Has identity := by
  obtain ⟨step, hstep, rfl⟩ := List.mem_map.1 h
  obtain ⟨row, hrow, hidentity, _⟩ := hupserts step hstep
  exact ⟨row, hrow, hidentity⟩

variable (hkeyed : Keyed new old)
  (hmem : ∀ identity, identity ∈ deletes.map (·.identity) ↔
    OldHas old identity ∧ ¬ new.Has identity)
  (hall : ∀ row ∈ new.present, new.identity row ∈ upserts.map (·.identity) ∨
    ∃ cells, c.oldRows new old (new.identity row) = some cells ∧ new.Fits row cells)

include hkeyed hmem hall

/-- The rows that are left when steps of these sorts have been carried out are the new ones. -/
theorem agrees_of_run {final : RowState}
    (hdeleted : ∀ step ∈ deletes, final step.identity = none)
    (hupserted : ∀ step ∈ upserts,
      rowEffect step.op (c.oldRows new old step.identity) = some (final step.identity))
    (hframe : ∀ identity, identity ∉ (deletes ++ upserts).map (·.identity) →
      final identity = c.oldRows new old identity) : Agrees new final := by
  have hgone : ∀ identity, identity ∈ deletes.map (·.identity) → final identity = none := by
    intro identity hi
    obtain ⟨step, hstep, rfl⟩ := List.mem_map.1 hi
    exact hdeleted step hstep
  have hfits : ∀ row ∈ new.present,
      ∃ cells, final (new.identity row) = some cells ∧ new.Fits row cells := by
    intro row hrow
    by_cases hi : new.identity row ∈ upserts.map (·.identity)
    · obtain ⟨step, hstep, he⟩ := List.mem_map.1 hi
      obtain ⟨r, hr, hidentity, hupsert⟩ := hupserts step hstep
      have hsame : r = row := new.eq_of_identity_eq hkeyed.new hr hrow (hidentity.trans he)
      subst hsame
      obtain ⟨cells, heffect, hcells⟩ := effect_upsert hkeyed hupsert
      have hfinal := hupserted step hstep
      rw [← hidentity, heffect] at hfinal
      exact ⟨cells, (Option.some.inj hfinal).symm, hcells⟩
    · obtain ⟨cells, hold, hcells⟩ := (hall row hrow).resolve_left hi
      refine ⟨cells, ?_, hcells⟩
      rw [hframe, hold]
      rw [List.map_append, List.mem_append, not_or]
      exact ⟨fun hd => ((hmem _).1 hd).2 ⟨row, hrow, rfl⟩, hi⟩
  refine ⟨fun identity => ⟨fun hsome => ?_, ?_⟩, hfits⟩
  · by_contra hnot
    have hi : identity ∉ deletes.map (·.identity) := by
      intro hd
      rw [hgone identity hd] at hsome
      cases hsome
    have hu : identity ∉ upserts.map (·.identity) := by
      intro hu
      exact hnot (has_of_mem_upserts hupserts hu)
    have hsame : final identity = c.oldRows new old identity := by
      apply hframe
      rw [List.map_append, List.mem_append, not_or]
      exact ⟨hi, hu⟩
    rw [hsame, isSome_oldRows_iff hkeyed] at hsome
    exact hi ((hmem identity).2 ⟨hsome, hnot⟩)
  · rintro ⟨row, hrow, rfl⟩
    obtain ⟨cells, hcells, _⟩ := hfits row hrow
    rw [hcells]
    rfl

/-- **Deletions and upserts of these sorts reconcile the rows.** -/
theorem reconciles (hdnodup : (deletes.map (·.identity)).Nodup)
    (hdeletes : ∀ step ∈ deletes, ∃ o, old = some o ∧ ∃ row ∈ o.present,
      o.identity row = step.identity ∧ IsDelete address new o row step.op)
    (hunodup : (upserts.map (·.identity)).Nodup) :
    c.Reconciles address new old deletes upserts := by
  have honce : ((deletes ++ upserts).map (·.identity)).Nodup := by
    rw [List.map_append, List.nodup_append']
    refine ⟨hdnodup, hunodup, fun identity hd hu => ?_⟩
    exact ((hmem _).1 hd).2 (has_of_mem_upserts hupserts hu)
  have hdelete : ∀ step ∈ deletes,
      rowEffect step.op (c.oldRows new old step.identity) = some none := by
    intro step hstep
    obtain ⟨o, ho, row, hrow, hidentity, hdelete⟩ := hdeletes step hstep
    rw [← hidentity]
    exact effect_delete hkeyed ho hrow hdelete
  have hupsert : ∀ step ∈ upserts, ∃ cells,
      rowEffect step.op (c.oldRows new old step.identity) = some (some cells) := by
    intro step hstep
    obtain ⟨row, hrow, hidentity, hupsert⟩ := hupserts step hstep
    obtain ⟨cells, heffect, _⟩ := effect_upsert hkeyed hupsert
    rw [← hidentity]
    exact ⟨cells, heffect⟩
  obtain ⟨final, hrun, heffects, hframe⟩ := RowState.exists_run_of_nodup honce <| by
    intro step hstep
    rcases List.mem_append.1 hstep with hstep | hstep
    · exact ⟨none, hdelete step hstep⟩
    · obtain ⟨cells, heffect⟩ := hupsert step hstep
      exact ⟨some cells, heffect⟩
  refine ⟨honce, hmem, hdeletes, hupserts, final, hrun, ?_⟩
  refine agrees_of_run hupserts hkeyed hmem hall ?_ ?_ hframe
  · intro step hstep
    have hfinal := heffects step (List.mem_append_left _ hstep)
    rw [hdelete step hstep] at hfinal
    exact (Option.some.inj hfinal).symm
  · intro step hstep
    exact heffects step (List.mem_append_right _ hstep)

end Reconciliation

/-! ### The rows of a table -/

/-- The two sides of a table with static rows: its own, and those of the table that it continues if
the keys have the same length. -/
theorem rowSides_eq_ok {c : Comparison} {schema : String} {table : Table}
    {sides : Option (StaticRows × Option StaticRows)} (hrows : table.rows.isSome)
    (h : c.rowSides schema table = .ok sides) : ∃ new old,
      StaticRows.ofTable c.new schema table = .ok (some new) ∧
        c.previousRows schema table = .ok old ∧
        sides = some (new, old.filter fun o => o.keyPlaces.length == new.keyPlaces.length) := by
  simp only [rowSides, bind_eq_ok] at h
  obtain ⟨own, hown, h⟩ := h
  cases own with
  | none =>
    obtain ⟨rows, hr⟩ := Option.isSome_iff_exists.1 hrows
    simp only [StaticRows.ofTable, hr, bind_eq_ok, pure_eq_ok] at hown
    obtain ⟨_, _, _, _, he⟩ := hown
    cases he
  | some new =>
    have hsides : ∃ old, c.previousRows schema table = .ok old ∧
        some (new, old.filter fun o => o.keyPlaces.length == new.keyPlaces.length) = sides := by
      unfold previousRows
      cases hdb : c.old with
      | none =>
        simp only [hdb] at h
        exact ⟨none, rfl, pure_eq_ok.1 h⟩
      | some db =>
        cases hv : c.oldVersion? schema table.name with
        | none =>
          simp only [hdb, hv] at h
          exact ⟨none, rfl, pure_eq_ok.1 h⟩
        | some prev =>
          simp only [hdb, hv] at h
          obtain ⟨old, hold, he⟩ := bind_eq_ok.1 h
          exact ⟨old, hold, pure_eq_ok.1 he⟩
    obtain ⟨old, hold, he⟩ := hsides
    exact ⟨new, old, hown, hold, he.symm⟩

/-- No two rows on either side of a well-made comparison count as the same. -/
theorem keyed_of_wellMade {c : Comparison} (hc : c.WellMade) {item : Schema × Table}
    (hm : item ∈ c.new.tables) {new : StaticRows} {old : Option StaticRows}
    (hnew : StaticRows.ofTable c.new item.1.name item.2 = .ok (some new))
    (hold : c.previousRows item.1.name item.2 = .ok old) : Keyed new old := by
  refine ⟨StaticRows.nodup_identities (hc.new.table_of_mem hm) hnew, ?_⟩
  rintro o rfl
  unfold previousRows at hold
  split at hold
  next db s t hdb hv =>
    have ht := hc.mem_old_of_oldVersion? hdb hv
    exact StaticRows.nodup_identities ((hc.old db hdb).table_of_mem ht) hold
  next => cases hold

/-- Old rows whose key is as long as the new one are not set aside. -/
theorem filter_previousRows {c : Comparison} {schema : String} {table : Table} {new : StaticRows}
    {old : Option StaticRows} (hnew : StaticRows.ofTable c.new schema table = .ok (some new))
    (hold : c.previousRows schema table = .ok old)
    (hkeys : ∀ s t, c.oldVersion? schema table.name = some (s, t) → t.rows.isSome →
      t.primaryKey.length = table.primaryKey.length) :
    (old.filter fun o => o.keyPlaces.length == new.keyPlaces.length) = old := by
  cases old with
  | none => rfl
  | some o =>
    rw [Option.filter_some, if_pos]
    unfold previousRows at hold
    split at hold
    next db s t hdb hv =>
      obtain ⟨rows, hrows, _⟩ := StaticRows.of_ofTable hold
      rw [StaticRows.length_keyPlaces hold, StaticRows.length_keyPlaces hnew,
        hkeys s t hv (by rw [hrows]; rfl)]
      exact beq_self_eq_true _
    next => cases hold

/-- The deletions of a table as steps for the rows that are not wanted any more. -/
theorem exists_tableDeletes {c : Comparison} {schema : String} {table : Table} {new : StaticRows}
    {old : Option StaticRows} (hkeyed : Keyed new old)
    (hsides : c.rowSides schema table = .ok (some (new, old))) {ops : List Op}
    (h : c.tableDeletes schema table = .ok ops) :
    ∃ steps : List RowStep, ops = steps.map (·.op) ∧ (steps.map (·.identity)).Nodup ∧
      (∀ identity, identity ∈ steps.map (·.identity) ↔
        OldHas old identity ∧ ¬ new.Has identity) ∧
      ∀ step ∈ steps, ∃ o, old = some o ∧ ∃ row ∈ o.present, o.identity row = step.identity ∧
        IsDelete (Sql.qualified schema table.name) new o row step.op := by
  rw [tableDeletes, hsides] at h
  cases old with
  | none =>
    refine ⟨[], (pure_eq_ok.1 h).symm, List.nodup_nil, ?_, by simp⟩
    simp [OldHas]
  | some o =>
    obtain ⟨steps, hops, hnodup, hmem, hspec⟩ := exists_deletes hkeyed.new (hkeyed.old o rfl) h
    refine ⟨steps, hops.symm, hnodup, fun identity => ?_, fun step hstep => ?_⟩
    · rw [hmem identity]
      simp [OldHas]
    · exact ⟨o, rfl, hspec step hstep⟩

/-- The operations of both passes over the static rows of a table reconcile them, and whatever
follows moves the key past them. -/
def ReconcilesTable (c : Comparison) (item : Schema × Table) (deletes upserts : List Op) : Prop :=
  ∃ (new : StaticRows) (old : Option StaticRows) (deleteSteps upsertSteps : List RowStep)
    (after : List Op), StaticRows.ofTable c.new item.1.name item.2 = .ok (some new) ∧
      c.previousRows item.1.name item.2 = .ok old ∧
      deletes = deleteSteps.map (·.op) ∧ upserts = upsertSteps.map (·.op) ++ after ∧
      OfKinds [.setSerialValue] after ∧
      c.Reconciles (Sql.qualified item.1.name item.2.name) new old deleteSteps upsertSteps

end Comparison

/-- **The static rows of a table are reconciled exactly**, whenever both passes over them succeed
and the key is as long as that of the old rows, if there are any. -/
theorem rows_reconciled {old : Option Database} {new : Database}
    {newOrder oldOrder : Option (List OrderItem)} {style : Sql.Style} {options : Options}
    {c : Comparison} (hnew : new.validate = .ok ())
    (hold : ∀ db, old = some db → db.validate = .ok ())
    (hmake : Comparison.make old new newOrder oldOrder style options = .ok c)
    {item : Schema × Table} (hm : item ∈ new.tables) (hrows : item.2.rows.isSome)
    (hkeys : ∀ s t, c.oldVersion? item.1.name item.2.name = some (s, t) → t.rows.isSome →
      t.primaryKey.length = item.2.primaryKey.length)
    {deletes upserts : List Op} (hdeletes : c.tableDeletes item.1.name item.2 = .ok deletes)
    (hupserts : c.tableUpserts item.1.name item.2 = .ok upserts) :
    c.ReconcilesTable item deletes upserts := by
  have hc := Comparison.wellMade_of_make (Database.coherent_of_validate hnew)
    (fun db hdb => Database.coherent_of_validate (hold db hdb)) hmake
  obtain ⟨-, -, -, -, rfl, -, -⟩ := Comparison.make_eq_ok_iff.1 hmake
  have hsides := hupserts
  rw [Comparison.tableUpserts, bind_eq_ok] at hsides
  obtain ⟨sides, hsides, -⟩ := hsides
  obtain ⟨newRows, oldRows, hnewRows, holdRows, rfl⟩ := Comparison.rowSides_eq_ok hrows hsides
  rw [Comparison.filter_previousRows hnewRows holdRows hkeys] at hsides
  rw [Comparison.tableUpserts, hsides] at hupserts
  have hkeyed := Comparison.keyed_of_wellMade hc hm hnewRows holdRows
  obtain ⟨upsertSteps, after, hupsertOps, hafter, hunodup, hupsertSteps, hall⟩ :=
    Comparison.exists_upserts hkeyed hupserts
  obtain ⟨deleteSteps, hdeleteOps, hdnodup, hmem, hdeleteSpec⟩ :=
    Comparison.exists_tableDeletes hkeyed hsides hdeletes
  exact ⟨newRows, oldRows, deleteSteps, upsertSteps, after, hnewRows, holdRows, hdeleteOps,
    hupsertOps, hafter, Comparison.reconciles hupsertSteps hkeyed hmem hall hdnodup hdeleteSpec
      hunodup⟩

/-! ### Words for the states of an order -/

/-- The states an order may be in, each with a word for it. -/
def Shop.stateTable (rows : List Row) : Table where
  name := "states"
  primaryKey := ["id"]
  columns := [{ name := "id", dataType := some "bigint", nullable := false },
    { name := "word", dataType := some "text" }]
  rows := some { columns := ["id", "word"], rows }

/-- A schema with states. -/
def Shop.stateSchema (rows : List Row) : Schema where
  name := "shop"
  tables := [Shop.stateTable rows]

/-- A state and the word for it. -/
def Shop.state (id word : String) (delete : Bool) : Row where
  cells := [{ value := some id }, { value := some word }]
  delete

/-- The states to begin with. -/
def Shop.states : List Row :=
  [Shop.state "1" "open" false, Shop.state "2" "paid" false, Shop.state "3" "lost" false]

/-- The states later: one has another word, one must not exist and one is new. -/
def Shop.laterStates : List Row :=
  [Shop.state "1" "open" false, Shop.state "2" "settled" false, Shop.state "3" "lost" true,
    Shop.state "4" "void" false]

theorem rows_reconciled_of_states :
    ∃ c, Comparison.make (some ⟨[Shop.stateSchema Shop.states], []⟩)
        ⟨[Shop.stateSchema Shop.laterStates], []⟩ none none {} {} = .ok c ∧
      c.ReconcilesTable (Shop.stateSchema Shop.laterStates, Shop.stateTable Shop.laterStates)
        [.deleteRow "shop.states" [("id", "3")]]
        [.updateRow "shop.states" [("word", "'settled'")] [("id", "2")] [("word", "'paid'")],
          .insertRow "shop.states" ["id", "word"] ["4", "'void'"]] := by
  have hrun : (do
      let c ← Comparison.make (some ⟨[Shop.stateSchema Shop.states], []⟩)
        ⟨[Shop.stateSchema Shop.laterStates], []⟩ none none {} {}
      let deletes ← c.tableDeletes "shop" (Shop.stateTable Shop.laterStates)
      let upserts ← c.tableUpserts "shop" (Shop.stateTable Shop.laterStates)
      return (c.oldVersion? "shop" "states", deletes, upserts)) =
        .ok (some (Shop.stateSchema Shop.states, Shop.stateTable Shop.states),
          [.deleteRow "shop.states" [("id", "3")]],
          [.updateRow "shop.states" [("word", "'settled'")] [("id", "2")] [("word", "'paid'")],
            .insertRow "shop.states" ["id", "word"] ["4", "'void'"]]) := by
    decide +kernel
  simp only [bind_eq_ok, pure_eq_ok, Prod.mk.injEq] at hrun
  obtain ⟨c, hmake, _, hdeletes, _, hupserts, hv, rfl, rfl⟩ := hrun
  refine ⟨c, hmake, rows_reconciled ?_ ?_ hmake ?_ rfl ?_ hdeletes hupserts⟩
  · decide +kernel
  · rintro _ ⟨⟩
    decide +kernel
  · decide
  · intro s t hst _
    have he := hv.symm.trans hst
    cases he
    rfl

end SchemaPlan
