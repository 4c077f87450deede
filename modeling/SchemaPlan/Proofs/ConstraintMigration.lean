import SchemaPlan.Proofs.TableConstraints

/-!
# Constraints are carried over exactly

A plan drops and adds constraints in different passes, and `TableConstraints.lean` says what each
decides.  Here the decisions are brought together: what a plan does to the constraints of a table is
read off its operations (`droppedNames`, `addedConstraints`) and compared with the constraints that
the two versions declare.

`Migrates` says what it means for a table to be carried over.  Each name that is dropped was there
and is dropped once, nothing is added under a name still in use, and what is left together with what
is added is what the new version declares, up to sameness.  The proof pairs the constraints of the
new version with their origins: a constraint that is added has itself, any other the old constraint
of its name (`origin`).

`plan_migrates_constraints` is the main statement.  Besides tables that are carried over it covers
those that are created and those that go away.
-/

namespace SchemaPlan

/-! ### What a plan does to the constraints of a table -/

/-- The names of the constraints that operations drop from the table of an address. -/
def droppedNames (address : String) (ops : List Op) : List String :=
  ops.filterMap fun
    | .dropConstraint table name => if table = address then some name else none
    | _ => none

/-- The constraints that operations add to a table. -/
def addedConstraints (key : TableKey) (ops : List Op) : List Constraint :=
  ops.filterMap fun
    | .addConstraint k => if k.owner = key then some k else none
    | _ => none

/-- Constraints whose names are not among those dropped. -/
def remaining (before : List Constraint) (dropped : List String) : List Constraint :=
  before.filter (·.name ∉ dropped)

/-- Dropping and adding leads from the constraints a table has to those it should have. -/
structure Migrates (before : List Constraint) (dropped : List String)
    (added after : List Constraint) : Prop where
  dropped_once : dropped.Nodup
  dropped_exist : dropped ⊆ before.map (·.name)
  added_fresh : ∀ k ∈ added, k.name ∉ (remaining before dropped).map (·.name)
  exact : ∃ ks, ks.Perm (remaining before dropped ++ added) ∧
    List.Forall₂ (fun k k' : Constraint => k.same k' = true) ks after

theorem mem_droppedNames {address name : String} {ops : List Op} :
    name ∈ droppedNames address ops ↔ .dropConstraint address name ∈ ops := by
  rw [droppedNames, List.mem_filterMap]
  constructor
  · rintro ⟨op, hop, he⟩
    split at he
    next table _ =>
      obtain ⟨rfl, rfl⟩ := Option.ite_none_right_eq_some.1 he |>.imp_right Option.some.inj
      exact hop
    next => cases he
  · intro hop
    exact ⟨_, hop, by simp⟩

theorem mem_addedConstraints {key : TableKey} {k : Constraint} {ops : List Op} :
    k ∈ addedConstraints key ops ↔ .addConstraint k ∈ ops ∧ k.owner = key := by
  rw [addedConstraints, List.mem_filterMap]
  constructor
  · rintro ⟨op, hop, he⟩
    split at he
    next k' =>
      obtain ⟨howner, rfl⟩ := Option.ite_none_right_eq_some.1 he |>.imp_right Option.some.inj
      exact ⟨hop, howner⟩
    next => cases he
  · rintro ⟨hop, howner⟩
    exact ⟨_, hop, by simp [howner]⟩

theorem droppedNames_append (address : String) (a b : List Op) :
    droppedNames address (a ++ b) = droppedNames address a ++ droppedNames address b :=
  List.filterMap_append

theorem addedConstraints_append (key : TableKey) (a b : List Op) :
    addedConstraints key (a ++ b) = addedConstraints key a ++ addedConstraints key b :=
  List.filterMap_append

theorem droppedNames_eq_nil {address : String} {kinds : List OpKind} {ops : List Op}
    (h : OfKinds kinds ops) (hkind : .dropConstraint ∉ kinds) : droppedNames address ops = [] := by
  refine List.filterMap_eq_nil_iff.2 fun op hop => ?_
  split
  next => exact absurd (h _ hop) hkind
  next => rfl

theorem addedConstraints_eq_nil {key : TableKey} {kinds : List OpKind} {ops : List Op}
    (h : OfKinds kinds ops) (hkind : .addConstraint ∉ kinds) : addedConstraints key ops = [] := by
  refine List.filterMap_eq_nil_iff.2 fun op hop => ?_
  split
  next => exact absurd (h _ hop) hkind
  next => rfl

theorem droppedNames_dropConstraintOps (address : String) (drops : List Constraint) :
    droppedNames address (Comparison.dropConstraintOps drops) =
      (drops.filter fun k => Sql.qualified k.schema k.table = address).map (·.name) := by
  induction drops with
  | nil => rfl
  | cons k drops ih =>
    rw [Comparison.dropConstraintOps] at ih ⊢
    by_cases hk : Sql.qualified k.schema k.table = address
    · simp [droppedNames, hk, ← ih]
    · simp [droppedNames, hk, ← ih]

theorem addedConstraints_map (key : TableKey) (ks : List Constraint) :
    addedConstraints key (ks.map .addConstraint) = ks.filter (·.owner = key) := by
  induction ks with
  | nil => rfl
  | cons k ks ih =>
    by_cases hk : k.owner = key
    · simp [addedConstraints, hk, ← ih]
    · simp [addedConstraints, hk, ← ih]

/-! ### One table -/

section Origin

variable {style : Sql.Style} {prev item : Schema × Table}
  {before after dropped pending : List Constraint}

/-- Where a constraint of the new version comes from. -/
def origin (before pending : List Constraint) (k : Constraint) : Constraint :=
  if k ∈ pending then k else (before.find? (·.name == k.name)).getD k

/-- What the drops and the additions of one table decide about its constraints.  A constraint that
stays is the same as one the new version wants, and one is added unless it is the same as one that
stays. -/
structure Decided (before after dropped pending : List Constraint) : Prop where
  dropped_sublist : dropped.Sublist before
  pending_sublist : pending.Sublist after
  of_kept : ∀ k ∈ before, k ∉ dropped → ∃ k' ∈ after, k'.same k = true
  mem_pending : ∀ k ∈ after, k ∈ pending ↔
    ∀ k' ∈ before, k'.name = k.name → k'.same k = true → k' ∈ dropped

theorem mem_remaining (hbefore : Constraints style prev before) (hsub : dropped.Sublist before)
    {k : Constraint} :
    k ∈ remaining before (dropped.map (·.name)) ↔ k ∈ before ∧ k ∉ dropped := by
  rw [remaining, List.mem_filter]
  refine and_congr_right fun hk => ?_
  rw [decide_eq_true_iff, List.mem_map, not_iff_not]
  constructor
  · rintro ⟨d, hd, hname⟩
    rw [← hbefore.eq_of_name_eq (hsub.subset hd) hk hname]
    exact hd
  · intro hd
    exact ⟨k, hd, rfl⟩

/-- A constraint that stays is not added again. -/
theorem Decided.not_mem_pending (h : Decided before after dropped pending)
    (hafter : Constraints style item after) {k k' : Constraint} (hk : k ∈ before)
    (hkept : k ∉ dropped) (hk' : k' ∈ after) (hname : k.name = k'.name) : k' ∉ pending := by
  intro hpending
  obtain ⟨k₂, hk₂, hsame⟩ := h.of_kept k hk hkept
  have hname₂ : k₂.name = k.name := (Constraint.same_iff.1 hsame).1
  have he : k₂ = k' := hafter.eq_of_name_eq hk₂ hk' (hname₂.trans hname)
  subst he
  exact hkept ((h.mem_pending k₂ hk').1 hpending k hk hname (Constraint.same_symm hsame))

/-- A constraint that is not added comes from one that stays and is the same. -/
theorem Decided.origin_of_not_mem (h : Decided before after dropped pending)
    (hbefore : Constraints style prev before) {k : Constraint} (hk : k ∈ after)
    (hnot : k ∉ pending) :
    origin before pending k ∈ before ∧ origin before pending k ∉ dropped ∧
      (origin before pending k).same k = true := by
  rw [h.mem_pending k hk] at hnot
  push Not at hnot
  obtain ⟨k', hk', hname, hsame, hkept⟩ := hnot
  have hfind : before.find? (·.name == k.name) = some k' := hname ▸ hbefore.find?_name hk'
  have he : origin before pending k = k' := by
    rw [origin, if_neg, hfind, Option.getD_some]
    intro hpending
    exact hkept ((h.mem_pending k hk).1 hpending k' hk' hname hsame)
  rw [he]
  exact ⟨hk', hkept, hsame⟩

theorem Decided.origin_same (h : Decided before after dropped pending)
    (hbefore : Constraints style prev before) {k : Constraint} (hk : k ∈ after) :
    (origin before pending k).same k = true := by
  by_cases hpending : k ∈ pending
  · rw [origin, if_pos hpending]
    exact Constraint.same_refl k
  · exact (h.origin_of_not_mem hbefore hk hpending).2.2

/-- The origins are what stays together with what is added. -/
theorem Decided.mem_map_origin (h : Decided before after dropped pending)
    (hbefore : Constraints style prev before) (hafter : Constraints style item after)
    {k : Constraint} :
    k ∈ after.map (origin before pending) ↔
      k ∈ remaining before (dropped.map (·.name)) ++ pending := by
  rw [List.mem_append, mem_remaining hbefore h.dropped_sublist, List.mem_map]
  constructor
  · rintro ⟨k', hk', rfl⟩
    by_cases hpending : k' ∈ pending
    · rw [origin, if_pos hpending]
      exact .inr hpending
    · have ho := h.origin_of_not_mem hbefore hk' hpending
      exact .inl ⟨ho.1, ho.2.1⟩
  · rintro (⟨hk, hkept⟩ | hpending)
    · obtain ⟨k', hk', hsame⟩ := h.of_kept k hk hkept
      have hname : k.name = k'.name := (Constraint.same_iff.1 hsame).1.symm
      refine ⟨k', hk', ?_⟩
      rw [origin, if_neg (h.not_mem_pending hafter hk hkept hk' hname), ← hname,
        hbefore.find?_name hk, Option.getD_some]
    · refine ⟨k, h.pending_sublist.subset hpending, ?_⟩
      rw [origin, if_pos hpending]

/-- **Decisions of this kind carry a table over.** -/
theorem Decided.migrates (h : Decided before after dropped pending)
    (hbefore : Constraints style prev before) (hafter : Constraints style item after)
    {names : List String} {added : List Constraint} (hnames : names.Perm (dropped.map (·.name)))
    (hadded : added.Perm pending) : Migrates before names added after := by
  have hdropped : (dropped.map (·.name)).Sublist (before.map (·.name)) := h.dropped_sublist.map _
  have hremaining : remaining before names = remaining before (dropped.map (·.name)) := by
    simp only [remaining, hnames.mem_iff]
  have hfresh : ∀ k ∈ pending,
      k.name ∉ (remaining before (dropped.map (·.name))).map (·.name) := by
    intro k hk hm
    obtain ⟨k', hk', hname⟩ := List.mem_map.1 hm
    rw [mem_remaining hbefore h.dropped_sublist] at hk'
    exact h.not_mem_pending hafter hk'.1 hk'.2 (h.pending_sublist.subset hk) hname hk
  have hnodup : (remaining before (dropped.map (·.name)) ++ pending).Nodup := by
    refine List.Nodup.of_map (·.name) ?_
    rw [List.map_append, List.nodup_append']
    refine ⟨hbefore.nodup.sublist (List.filter_sublist.map _),
      hafter.nodup.sublist (h.pending_sublist.map _), ?_⟩
    intro name hr hp
    obtain ⟨k, hk, rfl⟩ := List.mem_map.1 hp
    exact hfresh k hk hr
  have horigins : (after.map (origin before pending)).Nodup := by
    refine List.Nodup.of_map (·.name) ?_
    have he : (after.map (origin before pending)).map (·.name) = after.map (·.name) := by
      rw [List.map_map]
      exact List.map_congr_left fun k hk => (Constraint.same_iff.1 (h.origin_same hbefore hk)).1
    rw [he]
    exact hafter.nodup
  refine ⟨hnames.nodup_iff.2 (hbefore.nodup.sublist hdropped), ?_, ?_, ?_⟩
  · exact fun name hname => hdropped.subset (hnames.subset hname)
  · intro k hk
    rw [hremaining]
    exact hfresh k (hadded.subset hk)
  · refine ⟨after.map (origin before pending), ?_, ?_⟩
    · rw [hremaining]
      refine List.Perm.trans ?_ (hadded.symm.append_left _)
      exact (List.perm_ext_iff_of_nodup horigins hnodup).2 fun k =>
        h.mem_map_origin hbefore hafter
    · rw [List.forall₂_map_left_iff, List.forall₂_same]
      exact fun k hk => h.origin_same hbefore hk

end Origin

/-! ### All tables -/

/-- Of the values that the elements of a list contribute, only those of one element are looked for. -/
theorem filter_flatMap_of_others {α β : Type} {f : α → List β} {p : β → Bool} {x : α} :
    ∀ {xs : List α}, xs.Nodup → x ∈ xs → (∀ y ∈ xs, y ≠ x → ∀ b ∈ f y, ¬p b = true) →
      (xs.flatMap f).filter p = (f x).filter p := by
  intro xs
  induction xs with
  | nil => intro _ hx; simp at hx
  | cons y ys ih =>
    intro hnodup hx hp
    obtain ⟨hy, hys⟩ := List.nodup_cons.1 hnodup
    have htail := fun z hz => hp z (List.mem_cons_of_mem y hz)
    rw [List.flatMap_cons, List.filter_append]
    by_cases he : y = x
    · subst he
      have hrest : (ys.flatMap f).filter p = [] := by
        rw [List.filter_eq_nil_iff]
        intro b hb
        obtain ⟨z, hz, hb⟩ := List.mem_flatMap.1 hb
        exact htail z hz (fun he => hy (he ▸ hz)) b hb
      rw [hrest, List.append_nil]
    · have hnone : (f y).filter p = [] := List.filter_eq_nil_iff.2 (hp y List.mem_cons_self he)
      have hmem : x ∈ ys := (List.mem_cons.1 hx).resolve_left (Ne.symm he)
      rw [hnone, List.nil_append, ih hys hmem htail]

/-- If those of one element are exactly those looked for, they are what is found. -/
theorem filter_flatMap_of_nodup {α β : Type} {f : α → List β} {p : β → Bool} {x : α}
    {xs : List α} (hnodup : xs.Nodup) (hx : x ∈ xs)
    (hp : ∀ y ∈ xs, ∀ b ∈ f y, p b = true ↔ y = x) : (xs.flatMap f).filter p = f x := by
  rw [filter_flatMap_of_others hnodup hx fun y hy hne b hb => mt (hp y hy b hb).1 hne]
  exact List.filter_eq_self.2 fun b hb => (hp x hx b hb).2 rfl

namespace Comparison

variable {c : Comparison} {p : Plan}

theorem droppedNames_ops (l : c.Layout p) (address : String) :
    droppedNames address p.ops =
      (l.drops.filter fun k => Sql.qualified k.schema k.table = address).map (·.name) := by
  rw [l.ops_eq]
  simp only [droppedNames_append, droppedNames_dropConstraintOps]
  rw [droppedNames_eq_nil l.head_kinds (by decide), droppedNames_eq_nil l.sequences_kinds (by decide),
    droppedNames_eq_nil l.tables_kinds (by decide), droppedNames_eq_nil l.adds_kinds (by decide),
    droppedNames_eq_nil l.tail_kinds (by decide)]
  simp

theorem addedConstraints_tablePass {drops : List Constraint} {item : Schema × Table} {d : Draft}
    {pending : List Constraint} (h : c.tablePass drops item = .ok d)
    (hpending : c.pendingConstraints drops item.1.name item.2 = .ok pending) (key : TableKey) :
    addedConstraints key (d.opsAt .stage1) =
      (pending.filter (·.kind == .primaryKey)).filter (·.owner = key) := by
  obtain ⟨work, ops, hwork, hops, rfl⟩ := tablePass_eq_ok_iff.1 h
  simp only [addPrimaryKey, hpending, bind_eq_ok, pure_eq_ok, Except.ok.injEq] at hops
  obtain ⟨_, rfl, rfl⟩ := hops
  simp only [Draft.opsAt_append, Draft.opsAt_first, addedConstraints_append, addedConstraints_map]
  rw [addedConstraints_eq_nil (within_tableWork hwork .stage1) (by decide),
    addedConstraints_eq_nil (ofKinds_tableIndexOps c _ _) (by decide),
    addedConstraints_eq_nil (ofKinds_clusterOps c _ _) (by decide),
    addedConstraints_eq_nil (ofKinds_tableTriggerOps c _ _) (by decide)]
  simp

theorem addedConstraints_addConstraints {drops : List Constraint} {item : Schema × Table}
    {ops : List Op} {pending : List Constraint}
    (h : c.addConstraints drops item.1.name item.2 = .ok ops)
    (hpending : c.pendingConstraints drops item.1.name item.2 = .ok pending) (key : TableKey) :
    addedConstraints key ops =
      (pending.filter (·.kind != .primaryKey)).filter (·.owner = key) := by
  simp only [addConstraints, hpending, bind_eq_ok, pure_eq_ok, Except.ok.injEq] at h
  obtain ⟨_, rfl, rfl⟩ := h
  exact addedConstraints_map key _

/-- All that a plan adds to a table is found among what is pending for the tables. -/
theorem addedConstraints_ops (l : c.Layout p) {pendingOf : Schema × Table → List Constraint}
    (hpending : ∀ item ∈ c.newTables,
      c.pendingConstraints l.drops item.1.name item.2 = .ok (pendingOf item)) (key : TableKey) :
    addedConstraints key p.ops =
      (((c.newTables.flatMap pendingOf).filter (·.kind == .primaryKey)) ++
        (c.newTables.flatMap pendingOf).filter (·.kind != .primaryKey)).filter (·.owner = key) := by
  have htables : addedConstraints key (l.tables.flatMap (·.opsAt .stage1)) =
      ((c.newTables.flatMap pendingOf).filter (·.kind == .primaryKey)).filter (·.owner = key) := by
    rw [addedConstraints, List.filterMap_flatMap, List.filter_flatMap, List.filter_flatMap]
    exact flatMap_eq_of_mapM l.tables_eq fun item hm d hd =>
      addedConstraints_tablePass hd (hpending item hm) key
  have hadds : addedConstraints key l.adds.flatten =
      ((c.newTables.flatMap pendingOf).filter (·.kind != .primaryKey)).filter (·.owner = key) := by
    rw [← List.flatMap_id, addedConstraints, List.filterMap_flatMap, List.filter_flatMap,
      List.filter_flatMap]
    exact flatMap_eq_of_mapM l.adds_eq fun item hm ops hops =>
      addedConstraints_addConstraints hops (hpending item hm) key
  rw [l.ops_eq]
  simp only [addedConstraints_append, htables, hadds, List.filter_append]
  rw [addedConstraints_eq_nil l.head_kinds (by decide),
    addedConstraints_eq_nil (ofKinds_dropConstraintOps l.drops) (by decide),
    addedConstraints_eq_nil l.sequences_kinds (by decide),
    addedConstraints_eq_nil l.tail_kinds (by decide)]
  simp

/-- What a plan adds to a table is what is pending for it. -/
theorem added_perm (h : c.WellMade) (l : c.Layout p)
    {pendingOf : Schema × Table → List Constraint}
    (hpending : ∀ item ∈ c.newTables,
      c.pendingConstraints l.drops item.1.name item.2 = .ok (pendingOf item))
    {item : Schema × Table} (hm : item ∈ c.new.tables) :
    (addedConstraints (itemKey item) p.ops).Perm (pendingOf item) := by
  have hown : (c.newTables.flatMap pendingOf).filter (·.owner = itemKey item) = pendingOf item := by
    refine filter_flatMap_of_nodup h.nodup_newTables (h.mem_newTables.2 hm) ?_
    intro other hother k hk
    rw [decide_eq_true_iff, owner_of_pending (hpending other hother) hk]
    exact ⟨h.new.eq_of_key_eq (h.mem_newTables.1 hother) hm, fun he => he ▸ rfl⟩
  rw [addedConstraints_ops l hpending, ← hown]
  exact (List.filter_append_perm _ _).filter _

/-- To a table that the new version does not have nothing is added. -/
theorem added_eq_nil (h : c.WellMade) (l : c.Layout p) {key : TableKey}
    (hkey : ∀ item ∈ c.new.tables, itemKey item ≠ key) : addedConstraints key p.ops = [] := by
  obtain ⟨pendingOf, hpending⟩ := exists_pending l.adds_eq
  rw [addedConstraints_ops l hpending, List.filter_eq_nil_iff]
  intro k hk howner
  have hk : k ∈ c.newTables.flatMap pendingOf := by
    rcases List.mem_append.1 hk with hk | hk
    · exact (List.mem_filter.1 hk).1
    · exact (List.mem_filter.1 hk).1
  obtain ⟨item, hm, hk⟩ := List.mem_flatMap.1 hk
  rw [decide_eq_true_iff, owner_of_pending (hpending item hm) hk] at howner
  exact hkey item (h.mem_newTables.1 hm) howner

/-- What a plan drops from a table of the previous version is what the drops of that table are. -/
theorem dropped_perm (h : c.WellMade) (l : c.Layout p) {old : Database} (hold : c.old = some old)
    (hdots : old.DotFree) {dropsOf : Schema × Table → List Constraint}
    (hdrops : c.DropsByTable old l.drops dropsOf) {item : Schema × Table} (hm : item ∈ old.tables) :
    (droppedNames (Sql.qualified item.1.name item.2.name) p.ops).Perm
      ((dropsOf item).map (·.name)) := by
  have hown : (c.oldTablesReversed.flatMap dropsOf).filter
      (fun k => Sql.qualified k.schema k.table = Sql.qualified item.1.name item.2.name) =
        dropsOf item := by
    refine filter_flatMap_of_nodup (h.nodup_oldTablesReversed hold)
      ((h.mem_oldTablesReversed hold).2 hm) ?_
    intro other hother k hk
    have hother := (h.mem_oldTablesReversed hold).1 hother
    have howner := owner_of_tableDrops (hdrops.of_table other hother) hk
    obtain ⟨hschema, htable⟩ := Prod.mk.inj howner
    rw [decide_eq_true_iff, hschema, htable]
    exact (h.old old hold).address_inj hdots hother hm
  rw [droppedNames_ops l, ← hown]
  exact (hdrops.perm.filter _).map _

/-- The passes over constraints decide about a table that is carried over in agreement. -/
theorem decided_of_carried (h : c.WellMade) (l : c.Layout p) {old : Database}
    (hold : c.old = some old) {dropsOf : Schema × Table → List Constraint}
    (hdrops : c.DropsByTable old l.drops dropsOf) {prev item : Schema × Table}
    (hprev : prev ∈ old.tables) (hm : item ∈ c.new.tables)
    (hv : c.oldVersion? item.1.name item.2.name = some prev) {pending : List Constraint}
    (hpending : c.pendingConstraints l.drops item.1.name item.2 = .ok pending) :
    ∃ before after, Constraints c.style prev before ∧ Constraints c.style item after ∧
      Decided before after (dropsOf prev) pending := by
  have hn := (h.oldVersion?_eq_some_iff_newVersion? hold hm hprev).1 hv
  obtain ⟨before, after, hbefore, hafter, hds⟩ := carriedDrops hn (hdrops.of_table prev hprev)
  obtain ⟨before', after', hbefore', hafter', hsub, hmem⟩ := pending_of_carried hv hpending
  have hb : before' = before := hbefore'.unique hbefore
  have ha : after' = after := hafter'.unique hafter
  subst hb ha
  refine ⟨before', after', hbefore, hafter, hds.sublist, hsub, ?_, ?_⟩
  · intro k hk hkept
    exact (hds.of_kept k hk hkept).2.1
  · intro k hk
    rw [hmem k hk]
    refine forall₄_congr fun k' hk' hname _ => ?_
    constructor
    · rintro ⟨d, hd, howner, hdname⟩
      have hd := (hdrops.mem_of_owner h hold hprev).1 ⟨hd, howner⟩
      rw [hbefore.eq_of_name_eq hk' (hds.sublist.subset hd) (hname.trans hdname.symm)]
      exact hd
    · intro hk'
      obtain ⟨hd, howner⟩ := (hdrops.mem_of_owner h hold hprev).2 hk'
      exact ⟨k', hd, howner, hname⟩

/-- Constraints are dropped before any is added. -/
theorem drops_precede_adds (l : c.Layout p) :
    Precedes (·.kind = .dropConstraint) (·.kind = .addConstraint) p.ops := by
  rw [l.ops_eq, ← List.append_assoc]
  refine precedes_append ?_ ?_
  · rw [List.forall_mem_append]
    constructor
    · exact l.head_kinds.forall_not (fun _ h => h) (by decide)
    · exact (ofKinds_dropConstraintOps l.drops).forall_not (fun _ h => h) (by decide)
  · simp only [List.forall_mem_append]
    refine ⟨?_, ?_, ?_, ?_⟩
    · exact l.sequences_kinds.forall_not (fun _ h => h) (by decide)
    · exact l.tables_kinds.forall_not (fun _ h => h) (by decide)
    · exact l.adds_kinds.forall_not (fun _ h => h) (by decide)
    · exact l.tail_kinds.forall_not (fun _ h => h) (by decide)

/-- What a plan does to constraints: tables that are carried over have theirs migrated, a table that
is created gets its own, and a table that goes away loses its foreign keys. -/
structure MigratesConstraints (c : Comparison) (p : Plan) : Prop where
  carried : ∀ item ∈ c.new.tables, ∀ prev, c.oldVersion? item.1.name item.2.name = some prev →
    ∃ before after, tableConstraints c.style prev.1.name prev.2 = .ok before ∧
      tableConstraints c.style item.1.name item.2 = .ok after ∧
      Migrates before (droppedNames (Sql.qualified prev.1.name prev.2.name) p.ops)
        (addedConstraints (itemKey item) p.ops) after
  created : ∀ item ∈ c.new.tables, c.oldVersion? item.1.name item.2.name = none →
    ∃ after, tableConstraints c.style item.1.name item.2 = .ok after ∧
      (addedConstraints (itemKey item) p.ops).Perm after
  gone : ∀ old, c.old = some old → ∀ item ∈ old.tables,
    c.newVersion? item.1.name item.2.name = none →
    ∃ before, tableConstraints c.style item.1.name item.2 = .ok before ∧
      (droppedNames (Sql.qualified item.1.name item.2.name) p.ops).Perm
        ((before.filter (·.kind == .foreignKey)).map (·.name)) ∧
      addedConstraints (itemKey item) p.ops = []
  order : Precedes (·.kind = .dropConstraint) (·.kind = .addConstraint) p.ops

end Comparison

/-- **A plan migrates constraints exactly.** -/
theorem plan_migrates_constraints [QueryReader] {old : Option Database} {new : Database}
    {style : Sql.Style} {options : Options} {p : Plan} (hdata : options.onlyData = false)
    (hdots : ∀ db, old = some db → db.DotFree) (h : plan old new style options = .ok p) :
    ∃ c, Comparison.make old new (some new.dependencyOrder) (old.map (·.dependencyOrder)) style
      options = .ok c ∧ c.MigratesConstraints p := by
  obtain ⟨c, hmake, hc, hp⟩ := Comparison.wellMade_of_plan h
  obtain ⟨-, -, -, hold, -, hoptions, -⟩ := Comparison.make_eq_ok_iff.1 hmake
  rw [← hoptions] at hdata
  obtain ⟨l⟩ := Comparison.nonempty_layout hp hdata
  obtain ⟨pendingOf, hpending⟩ := Comparison.exists_pending l.adds_eq
  have hadded : ∀ item ∈ c.new.tables,
      (addedConstraints (itemKey item) p.ops).Perm (pendingOf item) :=
    fun _ hm => Comparison.added_perm hc l hpending hm
  refine ⟨c, hmake, ⟨?_, ?_, ?_, Comparison.drops_precede_adds l⟩⟩
  · intro item hm prev hv
    cases ho : c.old with
    | none => simp [Comparison.oldVersion?, ho] at hv
    | some db =>
      obtain ⟨dropsOf, hdrops⟩ := Comparison.exists_dropsByTable hc ho l.constraintDrops_eq
      have hprev : prev ∈ db.tables := hc.mem_old_of_oldVersion? ho hv
      obtain ⟨before, after, hbefore, hafter, hdecided⟩ := Comparison.decided_of_carried hc l ho
        hdrops hprev hm hv (hpending item (hc.mem_newTables.2 hm))
      refine ⟨before, after, tableConstraints_eq_ok_iff.2 hbefore,
        tableConstraints_eq_ok_iff.2 hafter, ?_⟩
      exact hdecided.migrates hbefore hafter
        (Comparison.dropped_perm hc l ho (hdots db (hold ▸ ho)) hdrops hprev) (hadded item hm)
  · intro item hm hv
    have hafter := Comparison.pending_of_created hv (hpending item (hc.mem_newTables.2 hm))
    exact ⟨pendingOf item, tableConstraints_eq_ok_iff.2 hafter, hadded item hm⟩
  · intro db ho item hm hv
    obtain ⟨dropsOf, hdrops⟩ := Comparison.exists_dropsByTable hc ho l.constraintDrops_eq
    obtain ⟨before, hbefore, hds⟩ := Comparison.tableDrops_of_gone hv (hdrops.of_table item hm)
    refine ⟨before, tableConstraints_eq_ok_iff.2 hbefore, ?_, ?_⟩
    · rw [← hds]
      exact Comparison.dropped_perm hc l ho (hdots db (hold ▸ ho)) hdrops hm
    · rw [← hold, ho] at hmake
      exact Comparison.added_eq_nil hc l fun other hother =>
        Comparison.itemKey_ne_of_gone hmake hc ho hm hv hother

/-! ### A table that is renamed -/

attribute [local instance] QueryReader.blank

/-- A table with a key of its own and a reference to customers. -/
def Shop.orders (name : String) (oldName : Option String) : Table where
  name
  oldName
  primaryKey := ["id"]
  columns := [
    { name := "id", dataType := some "bigint", nullable := false },
    { name := "customer", foreignKey := some { table := "customers", column := some "id" } }]

/-- The table that orders refer to. -/
def Shop.customers : Table where
  name := "customers"
  primaryKey := ["id"]
  columns := [{ name := "id", dataType := some "bigint", nullable := false }]

/-- A shop with customers and their orders. -/
def Shop.first : Database where
  schemas := [{ name := "shop", tables := [Shop.customers, Shop.orders "orders" none] }]

/-- The same shop with another name for orders. -/
def Shop.renamed : Database where
  schemas := [{ name := "shop", tables := [Shop.customers, Shop.orders "purchases" (some "orders")] }]

/-- The plan that renames orders: the key and the reference are dropped under their old names and
added under the new ones. -/
def Shop.renaming : Plan := [
  ⟨.stage1, .dropConstraint "shop.orders" "orders_customer_fkey"⟩,
  ⟨.stage1, .dropConstraint "shop.orders" "orders_pkey"⟩,
  ⟨.stage1, .renameTable "shop.orders" "purchases"⟩,
  ⟨.stage1, .addConstraint {
    name := "purchases_pkey", schema := "shop", table := "purchases", kind := .primaryKey,
    definition := "(id)", columns := ["id"] }⟩,
  ⟨.stage1, .addConstraint {
    name := "purchases_customer_fkey", schema := "shop", table := "purchases", kind := .foreignKey,
    definition := "(customer) REFERENCES shop.customers (id)",
    references := some ("shop", "customers"), columns := ["customer"] }⟩]

theorem plan_migrates_constraints_of_renamed :
    plan (some Shop.first) Shop.renamed {} {} = .ok Shop.renaming ∧
      ∃ c, Comparison.make (some Shop.first) Shop.renamed (some Shop.renamed.dependencyOrder)
        (some Shop.first.dependencyOrder) {} {} = .ok c ∧ c.MigratesConstraints Shop.renaming := by
  have h : plan (some Shop.first) Shop.renamed {} {} = .ok Shop.renaming := by decide +kernel
  have hdots : ∀ db, some Shop.first = some db → db.DotFree := by
    rintro _ ⟨⟩
    decide
  exact ⟨h, plan_migrates_constraints rfl hdots h⟩

end SchemaPlan
