import Mathlib.Data.Finset.Basic
import SchemaPlan.Proofs.Stages
import SchemaPlan.Proofs.TablePlacement

/-!
# Moves of tables are carried out

The moves of a plan are made one after another on the addresses of the previous version
(`TableMove.run?`).  A move is made only if its table is there and its target is not taken.

After the tables `front` have been settled, the tables of `Comparison.standing` are there: those of
`front`, and those of the previous version that none of `front` continues.  Settling one more table
keeps this (`run_movesOf`), so that it holds after all of them (`run_flatMap_of_clear`), and
dropping what none continues leaves the new version.

There is one thing that can be in the way.  A table that gets another schema and another name has
its former name in its new schema in between (`Comparison.passing?`), and a table of that name may
stand there.  `moves_carried_out` says that the moves can be made if and only if that never happens,
and `moves_stopped_at_passing` that it does happen.
-/

namespace SchemaPlan

open Database (address)

/-! ### Making moves -/

namespace TableMove

/-- A table is found under another address. -/
def relocate? (tables : Finset String) (source target : String) : Option (Finset String) :=
  if source ∈ tables ∧ target ∉ tables then some (insert target (tables.erase source)) else none

/-- The tables that are there after a move.  There is no answer if the table to be moved is missing
or if its target is taken. -/
def step? (tables : Finset String) : TableMove → Option (Finset String)
  | create address => if address ∈ tables then none else some (insert address tables)
  | setSchema address schema =>
    relocate? tables address (Sql.qualified schema (Sql.splitQualified address).2)
  | rename address name =>
    relocate? tables address (Sql.qualified (Sql.splitQualified address).1 name)
  | drop address => if address ∈ tables then some (tables.erase address) else none

/-- The tables that are there after moves, if all of them can be made. -/
def run? (tables : Finset String) (moves : List TableMove) : Option (Finset String) :=
  moves.foldlM step? tables

variable {tables : Finset String}

@[simp] theorem run?_nil : run? tables [] = some tables :=
  rfl

@[simp] theorem run?_cons (m : TableMove) (moves : List TableMove) :
    run? tables (m :: moves) = (step? tables m).bind (run? · moves) :=
  rfl

theorem run?_append (a b : List TableMove) :
    run? tables (a ++ b) = (run? tables a).bind (run? · b) :=
  List.foldlM_append

theorem relocate?_eq_some {source target : String} (hsource : source ∈ tables)
    (htarget : target ∉ tables) :
    relocate? tables source target = some (insert target (tables.erase source)) :=
  if_pos ⟨hsource, htarget⟩

theorem relocate?_eq_none {source target : String} (htarget : target ∈ tables) :
    relocate? tables source target = none :=
  if_neg fun h => h.2 htarget

/-- A table gets the name that it has in another schema. -/
theorem step?_setSchema {schema name : String} (hdots : '.' ∉ schema.toList) (target : String) :
    step? tables (.setSchema (Sql.qualified schema name) target) =
      relocate? tables (Sql.qualified schema name) (Sql.qualified target name) := by
  rw [step?, Sql.splitQualified_qualified hdots]

theorem step?_rename {schema name : String} (hdots : '.' ∉ schema.toList) (target : String) :
    step? tables (.rename (Sql.qualified schema name) target) =
      relocate? tables (Sql.qualified schema name) (Sql.qualified schema target) := by
  rw [step?, Sql.splitQualified_qualified hdots]

/-- Tables that are there can all be dropped. -/
theorem run?_drops {gone : List String} (hnodup : gone.Nodup) (hgone : ∀ a ∈ gone, a ∈ tables) :
    run? tables (gone.map .drop) = some (tables \ gone.toFinset) := by
  induction gone generalizing tables with
  | nil => simp
  | cons a gone ih =>
    obtain ⟨hnot, hnodup⟩ := List.nodup_cons.1 hnodup
    have hrest : ∀ b ∈ gone, b ∈ tables.erase a := fun b hb =>
      Finset.mem_erase.2 ⟨fun he => hnot (he ▸ hb), hgone b (List.mem_cons_of_mem _ hb)⟩
    rw [List.map_cons, run?_cons, step?, if_pos (hgone a List.mem_cons_self), Option.bind_some,
      ih hnodup hrest, List.toFinset_cons, Finset.sdiff_insert, Finset.erase_sdiff_comm]

end TableMove

open TableMove (run? relocate?)

/-- The addresses of all tables of a definition. -/
def Database.addresses (db : Database) : Finset String :=
  (db.tables.map address).toFinset

theorem Database.mem_addresses {db : Database} {a : String} :
    a ∈ db.addresses ↔ ∃ item ∈ db.tables, address item = a := by
  rw [addresses, List.mem_toFinset, List.mem_map]

namespace Comparison

/-! ### The tables that stand -/

/-- The tables that are there when some of the new version have been settled: these, and those of
the previous version that none of these continues. -/
def standing (c : Comparison) (front : List (Schema × Table)) : Finset String :=
  ((front ++ c.previousTables.filter fun prev =>
    ∀ item ∈ front, c.oldVersion? item.1.name item.2.name ≠ some prev).map address).toFinset

/-- The address that a table has in between when it gets another schema and another name. -/
def passing? (c : Comparison) (item : Schema × Table) : Option String :=
  (c.oldVersion? item.1.name item.2.name).bind fun prev =>
    if prev.1.name ≠ item.1.name ∧ prev.2.name ≠ item.2.name then
      some (Sql.qualified item.1.name prev.2.name)
    else none

/-- Another table is in the way of one that is settled next. -/
def Blocked (c : Comparison) (front : List (Schema × Table)) (item : Schema × Table) : Prop :=
  ∃ a ∈ c.passing? item, a ∈ c.standing front

/-- No table is in the way of another while the tables of the new version are settled in order. -/
def WayIsClear (c : Comparison) : Prop :=
  ∀ front item back, c.newTables = front ++ item :: back → ¬ c.Blocked front item

/-- Tables are told by their addresses: within each version, and a table under the address that a
previous one had continues it. -/
structure Addressed (c : Comparison) : Prop where
  new_dots : ∀ item ∈ c.new.tables, '.' ∉ item.1.name.toList
  old_dots : ∀ prev ∈ c.previousTables, '.' ∉ prev.1.name.toList
  new_inj : ∀ a ∈ c.new.tables, ∀ b ∈ c.new.tables, address a = address b → a = b
  old_inj : ∀ a ∈ c.previousTables, ∀ b ∈ c.previousTables, address a = address b → a = b
  across : ∀ item ∈ c.new.tables, ∀ prev ∈ c.previousTables, address item = address prev →
    c.oldVersion? item.1.name item.2.name = some prev

variable {c : Comparison} {front : List (Schema × Table)} {item prev : Schema × Table}

theorem mem_standing {a : String} : a ∈ c.standing front ↔
    (∃ item ∈ front, address item = a) ∨ ∃ prev ∈ c.previousTables,
      (∀ item ∈ front, c.oldVersion? item.1.name item.2.name ≠ some prev) ∧ address prev = a := by
  simp only [standing, List.map_append, List.mem_toFinset, List.mem_append, List.mem_map,
    List.mem_filter, decide_eq_true_eq, and_assoc]

theorem passing?_eq_some_iff {a : String} : c.passing? item = some a ↔
    ∃ prev, c.oldVersion? item.1.name item.2.name = some prev ∧ prev.1.name ≠ item.1.name ∧
      prev.2.name ≠ item.2.name ∧ Sql.qualified item.1.name prev.2.name = a := by
  simp only [passing?, Option.bind_eq_some_iff, Option.ite_none_right_eq_some, Option.some.injEq,
    and_assoc]

theorem standing_nil : c.standing [] = (c.previousTables.map address).toFinset := by
  simp [standing]

theorem addressed {old : Option Database} {new : Database}
    {newOrder oldOrder : Option (List OrderItem)} {style : Sql.Style} {options : Options}
    (hmake : make old new newOrder oldOrder style options = .ok c) (hc : c.WellMade)
    (hnewDots : c.new.DotFree) (holdDots : ∀ db, c.old = some db → db.DotFree) : c.Addressed := by
  have hnew : ∀ item ∈ c.new.tables, '.' ∉ item.1.name.toList :=
    fun item hm => hnewDots item.1 (Database.mem_tables.1 hm).1
  have hold : ∀ prev ∈ c.previousTables, '.' ∉ prev.1.name.toList := by
    intro prev hm
    obtain ⟨db, hdb, hm⟩ := mem_previousTables.1 hm
    exact holdDots db hdb prev.1 (Database.mem_tables.1 hm).1
  refine ⟨hnew, hold, fun a ha b hb he => (hc.new.address_inj hnewDots ha hb).1 he, ?_, ?_⟩
  · intro a ha b hb he
    obtain ⟨db, hdb, ha⟩ := mem_previousTables.1 ha
    obtain ⟨db', hdb', hb⟩ := mem_previousTables.1 hb
    cases hdb.symm.trans hdb'
    exact ((hc.old db hdb).address_inj (holdDots db hdb) ha hb).1 he
  · intro item hm prev hp he
    obtain ⟨db, hdb, hm'⟩ := mem_previousTables.1 hp
    have hkey : itemKey item = itemKey prev :=
      (Sql.qualified_inj (hnew item hm) (hold prev hp)).1 he
    obtain ⟨hs, ht⟩ := Prod.mk.inj hkey
    have hfound : db.table? item.1.name item.2.name = some prev := by
      rw [hs, ht]
      exact (hc.old db hdb).table?_of_mem hm'
    obtain ⟨-, -, -, rfl, rfl, -, -⟩ := make_eq_ok_iff.1 hmake
    rw [hdb] at hmake
    have hpair := mem_pairs_of_same_key hmake hm (by rw [hfound]; rfl)
    refine (hc.oldVersion?_eq_some_iff hdb).2 ⟨?_, hm'⟩
    rwa [← hkey]

/-! ### Settling one table -/

section Step

variable (hfront : ∀ other ∈ front, other ∈ c.new.tables) (hm : item ∈ c.new.tables)
  (hnot : item ∉ front)

theorem standing_of_fresh (hv : c.oldVersion? item.1.name item.2.name = none) :
    c.standing (front ++ [item]) = insert (address item) (c.standing front) := by
  ext a
  simp only [Finset.mem_insert, mem_standing, List.mem_append, List.mem_singleton, or_imp,
    forall_and, forall_eq, hv]
  constructor
  · rintro (⟨other, hother | rfl, rfl⟩ | ⟨prev, hprev, ⟨hnone, -⟩, rfl⟩)
    · exact .inr (.inl ⟨other, hother, rfl⟩)
    · exact .inl rfl
    · exact .inr (.inr ⟨prev, hprev, hnone, rfl⟩)
  · rintro (rfl | ⟨other, hother, rfl⟩ | ⟨prev, hprev, hnone, rfl⟩)
    · exact .inl ⟨item, .inr rfl, rfl⟩
    · exact .inl ⟨other, .inl hother, rfl⟩
    · exact .inr ⟨prev, hprev, ⟨hnone, nofun⟩, rfl⟩

include hfront hm hnot

/-- Where a table goes nothing stands but what it continues. -/
theorem oldVersion?_of_mem_standing (ha : c.Addressed) (hstands : address item ∈ c.standing front) :
    ∃ prev, c.oldVersion? item.1.name item.2.name = some prev ∧ address prev = address item := by
  rcases mem_standing.1 hstands with ⟨other, hother, he⟩ | ⟨prev, hprev, -, he⟩
  · exact absurd (ha.new_inj other (hfront other hother) item hm he ▸ hother) hnot
  · exact ⟨prev, ha.across item hm prev hprev he.symm, he⟩

variable (hpairs : c.PairsOff) (hv : c.oldVersion? item.1.name item.2.name = some prev)

include hpairs hv

/-- A table that is continued later on stands. -/
theorem address_mem_standing : address prev ∈ c.standing front := by
  have hprev := hpairs.old_mem item hm prev hv
  refine mem_standing.2 (.inr ⟨prev, hprev, fun other hother hv' => ?_, rfl⟩)
  exact hnot (hpairs.old_unique item hm other (hfront other hother) prev hv hv' ▸ hother)

theorem standing_of_continued (ha : c.Addressed) : c.standing (front ++ [item]) =
    insert (address item) ((c.standing front).erase (address prev)) := by
  have hprev := hpairs.old_mem item hm prev hv
  have hother : ∀ other ∈ front, address other ≠ address prev := by
    intro other hother he
    have hv' := ha.across other (hfront other hother) prev hprev he
    exact hnot (hpairs.old_unique item hm other (hfront other hother) prev hv hv' ▸ hother)
  ext a
  simp only [Finset.mem_insert, Finset.mem_erase, mem_standing, List.mem_append,
    List.mem_singleton, or_imp, forall_and, forall_eq, hv]
  constructor
  · rintro (⟨other, hmem | rfl, rfl⟩ | ⟨old, hold, ⟨hnone, hne⟩, rfl⟩)
    · exact .inr ⟨hother other hmem, .inl ⟨other, hmem, rfl⟩⟩
    · exact .inl rfl
    · refine .inr ⟨fun he => hne ?_, .inr ⟨old, hold, hnone, rfl⟩⟩
      rw [ha.old_inj old hold prev hprev he]
  · rintro (rfl | ⟨hne, ⟨other, hmem, rfl⟩ | ⟨old, hold, hnone, rfl⟩⟩)
    · exact .inl ⟨item, .inr rfl, rfl⟩
    · exact .inl ⟨other, .inl hmem, rfl⟩
    · refine .inr ⟨old, hold, ⟨hnone, fun he => hne ?_⟩, rfl⟩
      rw [Option.some.inj he]

end Step

/-- A table that is there gets the schema and the name that it is to have, unless it must pass an
address that is taken. -/
theorem run_renameTable {tables : Finset String} {schema name schema' name' : String}
    (hdots : '.' ∉ schema.toList) (hdots' : '.' ∉ schema'.toList)
    (hstands : Sql.qualified schema name ∈ tables)
    (hfree : Sql.qualified schema' name' ≠ Sql.qualified schema name →
      Sql.qualified schema' name' ∉ tables) :
    run? tables (tableMoves (renameTable schema name schema' name')) =
      if schema ≠ schema' ∧ name ≠ name' ∧ Sql.qualified schema' name ∈ tables then none
      else some
        (insert (Sql.qualified schema' name') (tables.erase (Sql.qualified schema name))) := by
  have hinj : ∀ {n n' : String}, Sql.qualified schema' n = Sql.qualified schema n' →
      schema = schema' ∧ n = n' := by
    intro n n' he
    obtain ⟨hs, hn⟩ := Prod.mk.inj ((Sql.qualified_inj hdots' hdots).1 he)
    exact ⟨hs.symm, hn⟩
  by_cases hs : schema = schema' <;> by_cases hn : name = name'
  · -- The table stays where it is.
    subst hs hn
    rw [if_neg fun h => h.1 rfl, Finset.insert_erase hstands]
    simp [renameTable]
  · subst hs
    have hmoves : tableMoves (renameTable schema name schema name') =
        [.rename (Sql.qualified schema name) name'] := by
      simp [renameTable, hn, tableMoves, Op.tableMove?]
    have htarget := hfree fun he => hn (hinj he).2.symm
    rw [if_neg fun h => h.1 rfl, hmoves, TableMove.run?_cons, TableMove.step?_rename hdots,
      TableMove.relocate?_eq_some hstands htarget]
    rfl
  · subst hn
    have hmoves : tableMoves (renameTable schema name schema' name) =
        [.setSchema (Sql.qualified schema name) schema'] := by
      simp [renameTable, hs, tableMoves, Op.tableMove?]
    have htarget := hfree fun he => hs (hinj he).1
    rw [if_neg fun h => h.2.1 rfl, hmoves, TableMove.run?_cons, TableMove.step?_setSchema hdots,
      TableMove.relocate?_eq_some hstands htarget]
    rfl
  · have hmoves : tableMoves (renameTable schema name schema' name') =
        [.setSchema (Sql.qualified schema name) schema',
          .rename (Sql.qualified schema' name) name'] := by
      simp [renameTable, hs, hn, tableMoves, Op.tableMove?]
    rw [hmoves, TableMove.run?_cons, TableMove.step?_setSchema hdots]
    by_cases htaken : Sql.qualified schema' name ∈ tables
    · rw [if_pos ⟨hs, hn, htaken⟩, TableMove.relocate?_eq_none htaken]
      rfl
    · have htarget := hfree fun he => hs (hinj he).1
      have hne : Sql.qualified schema' name' ≠ Sql.qualified schema' name := by
        intro he
        exact hn (Prod.mk.inj ((Sql.qualified_inj hdots' hdots').1 he)).2.symm
      have hfree' : Sql.qualified schema' name' ∉
          insert (Sql.qualified schema' name) (tables.erase (Sql.qualified schema name)) := by
        simp [hne, htarget]
      rw [if_neg fun h => htaken h.2.2, TableMove.relocate?_eq_some hstands htaken,
        Option.bind_some, TableMove.run?_cons, TableMove.step?_rename hdots',
        TableMove.relocate?_eq_some (Finset.mem_insert_self _ _) hfree',
        Finset.erase_insert fun h => htaken (Finset.mem_of_mem_erase h)]
      rfl

/-- A table is in the way of one that continues another if it has the address that is passed. -/
theorem blocked_iff (hv : c.oldVersion? item.1.name item.2.name = some prev) :
    c.Blocked front item ↔ prev.1.name ≠ item.1.name ∧ prev.2.name ≠ item.2.name ∧
      Sql.qualified item.1.name prev.2.name ∈ c.standing front := by
  simp only [Blocked, Option.mem_def, passing?, hv, Option.bind_some, Option.ite_none_right_eq_some,
    Option.some.injEq]
  constructor
  · rintro ⟨_, ⟨⟨hs, hn⟩, rfl⟩, hstands⟩
    exact ⟨hs, hn, hstands⟩
  · rintro ⟨hs, hn, hstands⟩
    exact ⟨_, ⟨⟨hs, hn⟩, rfl⟩, hstands⟩

open Classical in
/-- **Settling a table.**  With nothing in the way, the moves of a table make it one of those that
stand; otherwise they cannot be made. -/
theorem run_movesOf (ha : c.Addressed) (hpairs : c.PairsOff)
    (hfront : ∀ other ∈ front, other ∈ c.new.tables) (hm : item ∈ c.new.tables)
    (hnot : item ∉ front) :
    run? (c.standing front) (c.movesOf item) =
      if c.Blocked front item then none else some (c.standing (front ++ [item])) := by
  have htarget := oldVersion?_of_mem_standing hfront hm hnot ha
  cases hv : c.oldVersion? item.1.name item.2.name with
  | none =>
    have hclear : ¬ c.Blocked front item := by
      rintro ⟨a, hpassing, -⟩
      obtain ⟨prev, hv', -⟩ := passing?_eq_some_iff.1 hpassing
      cases hv.symm.trans hv'
    have hfree : address item ∉ c.standing front := by
      intro hstands
      obtain ⟨prev, hv', -⟩ := htarget hstands
      cases hv.symm.trans hv'
    rw [if_neg hclear, movesOf, hv, standing_of_fresh hv, TableMove.run?_cons, TableMove.step?,
      if_neg hfree]
    rfl
  | some prev =>
    have hfree : address item ≠ address prev → address item ∉ c.standing front := by
      intro hne hstands
      obtain ⟨prev', hv', he⟩ := htarget hstands
      cases hv.symm.trans hv'
      exact hne he.symm
    rw [movesOf, hv, standing_of_continued hfront hm hnot hpairs hv ha]
    dsimp only
    rw [run_renameTable (ha.old_dots prev (hpairs.old_mem item hm prev hv)) (ha.new_dots item hm)
      (address_mem_standing hfront hm hnot hpairs hv) hfree]
    exact if_congr (blocked_iff hv).symm rfl rfl

/-! ### Settling all of them -/

section Run

variable (ha : c.Addressed) (hpairs : c.PairsOff)

include ha hpairs

/-- With nothing in the way, all tables are settled. -/
theorem run_flatMap_of_clear (front back : List (Schema × Table))
    (hall : ∀ item ∈ front ++ back, item ∈ c.new.tables) (hnodup : (front ++ back).Nodup)
    (hclear : ∀ pre item post, back = pre ++ item :: post → ¬ c.Blocked (front ++ pre) item) :
    run? (c.standing front) (back.flatMap c.movesOf) = some (c.standing (front ++ back)) := by
  induction back generalizing front with
  | nil => simp
  | cons item back ih =>
    have hsplit : front ++ item :: back = front ++ [item] ++ back := by simp
    have hnot : item ∉ front := fun h =>
      (List.nodup_append.1 hnodup).2.2 item h item List.mem_cons_self rfl
    have hfirst : ¬ c.Blocked front item := by simpa using hclear [] item back rfl
    have hstep := run_movesOf ha hpairs (fun other h => hall other (List.mem_append_left _ h))
      (hall item (by simp)) hnot
    rw [if_neg hfirst] at hstep
    rw [List.flatMap_cons, TableMove.run?_append, hstep, Option.bind_some, hsplit]
    refine ih (front ++ [item]) (hsplit ▸ hall) (hsplit ▸ hnodup) fun pre other post he => ?_
    rw [List.append_assoc, List.singleton_append]
    exact hclear (item :: pre) other post (by rw [he]; rfl)

/-- With something in the way of one table, the moves cannot all be made. -/
theorem run_flatMap_of_blocked (front pre post : List (Schema × Table))
    (hall : ∀ other ∈ front ++ (pre ++ item :: post), other ∈ c.new.tables)
    (hnodup : (front ++ (pre ++ item :: post)).Nodup) (hblocked : c.Blocked (front ++ pre) item) :
    run? (c.standing front) ((pre ++ item :: post).flatMap c.movesOf) = none := by
  induction pre generalizing front with
  | nil =>
    have hnot : item ∉ front := fun h =>
      (List.nodup_append.1 hnodup).2.2 item h item List.mem_cons_self rfl
    have hstep := run_movesOf ha hpairs (fun other h => hall other (List.mem_append_left _ h))
      (hall item (by simp)) hnot
    rw [if_pos (List.append_nil front ▸ hblocked)] at hstep
    rw [List.nil_append, List.flatMap_cons, TableMove.run?_append, hstep, Option.bind_none]
  | cons first pre ih =>
    have hsplit : front ++ (first :: pre ++ item :: post) =
        front ++ [first] ++ (pre ++ item :: post) := by simp
    have hnot : first ∉ front := fun h =>
      (List.nodup_append.1 hnodup).2.2 first h first List.mem_cons_self rfl
    have hstep := run_movesOf ha hpairs (fun other h => hall other (List.mem_append_left _ h))
      (hall first (by simp)) hnot
    rw [List.cons_append, List.flatMap_cons, TableMove.run?_append, hstep]
    split
    · rfl
    · refine ih (front ++ [first]) (hsplit ▸ hall) (hsplit ▸ hnodup) ?_
      rwa [List.append_assoc, List.singleton_append]

/-- Once all tables have been settled, dropping those that none continues leaves the new version. -/
theorem run_drops (hc : c.WellMade) :
    run? (c.standing c.newTables)
      ((c.oldTablesReversed.filter c.isGone).map (TableMove.drop <| address ·)) =
        some c.new.addresses := by
  have hmem : ∀ {prev}, prev ∈ c.oldTablesReversed.filter c.isGone ↔
      prev ∈ c.previousTables ∧ c.isGone prev = true := by
    intro prev
    rw [List.mem_filter, hc.mem_oldTablesReversed_iff]
  have hgone : ∀ prev ∈ c.previousTables, c.isGone prev = true ↔
      ∀ item ∈ c.newTables, c.oldVersion? item.1.name item.2.name ≠ some prev := by
    intro prev hprev
    rw [isGone, Option.isNone_iff_eq_none, Option.eq_none_iff_forall_ne_some]
    constructor
    · intro hnone item hm hv
      exact hnone item ((hpairs.both_ways item (hc.mem_newTables.1 hm) prev hprev).1 hv)
    · intro hnone item hv
      have hm := hpairs.new_mem prev hprev item hv
      exact hnone item (hc.mem_newTables.2 hm) ((hpairs.both_ways item hm prev hprev).2 hv)
  have hnodup : ((c.oldTablesReversed.filter c.isGone).map address).Nodup := by
    refine List.Nodup.map_on (fun a hma b hmb => ha.old_inj a (hmem.1 hma).1 b (hmem.1 hmb).1) ?_
    refine List.Nodup.filter _ ?_
    cases hold : c.old with
    | none => simp [oldTablesReversed, hold]
    | some db => exact hc.nodup_oldTablesReversed hold
  have hstand : ∀ a ∈ (c.oldTablesReversed.filter c.isGone).map address,
      a ∈ c.standing c.newTables := by
    intro a hmem'
    obtain ⟨prev, hprev, rfl⟩ := List.mem_map.1 hmem'
    obtain ⟨hprev, hnone⟩ := hmem.1 hprev
    exact mem_standing.2 (.inr ⟨prev, hprev, (hgone prev hprev).1 hnone, rfl⟩)
  have hdrops : (c.oldTablesReversed.filter c.isGone).map (TableMove.drop <| address ·) =
      ((c.oldTablesReversed.filter c.isGone).map address).map TableMove.drop := by
    rw [List.map_map]
    rfl
  rw [hdrops, TableMove.run?_drops hnodup hstand]
  congr 1
  ext a
  rw [Finset.mem_sdiff, List.mem_toFinset, Database.mem_addresses, mem_standing]
  constructor
  · rintro ⟨⟨item, hm, rfl⟩ | ⟨prev, hprev, hnone, rfl⟩, hnot⟩
    · exact ⟨item, hc.mem_newTables.1 hm, rfl⟩
    · exact absurd (List.mem_map_of_mem (hmem.2 ⟨hprev, (hgone prev hprev).2 hnone⟩)) hnot
  · rintro ⟨item, hm, rfl⟩
    refine ⟨.inl ⟨item, hc.mem_newTables.2 hm, rfl⟩, fun hdropped => ?_⟩
    obtain ⟨prev, hprev, he⟩ := List.mem_map.1 hdropped
    obtain ⟨hprev, hnone⟩ := hmem.1 hprev
    exact (hgone prev hprev).1 hnone item (hc.mem_newTables.2 hm)
      (ha.across item hm prev hprev he.symm)

end Run

/-- Nothing is in the way where no address that is passed is one of either version. -/
theorem wayIsClear_of_free (hc : c.WellMade)
    (hfree : ∀ item ∈ c.new.tables, ∀ a ∈ c.passing? item,
      (∀ other ∈ c.new.tables, address other ≠ a) ∧ ∀ prev ∈ c.previousTables, address prev ≠ a) :
    c.WayIsClear := by
  rintro front item back he ⟨a, hpassing, hstands⟩
  have hmem : ∀ other ∈ front ++ item :: back, other ∈ c.new.tables := by
    intro other hother
    rw [← he] at hother
    exact hc.mem_newTables.1 hother
  obtain ⟨hnew, hold⟩ := hfree item (hmem item (by simp)) a hpassing
  rcases mem_standing.1 hstands with ⟨other, hother, he⟩ | ⟨prev, hprev, -, he⟩
  · exact hnew other (hmem other (List.mem_append_left _ hother)) he
  · exact hold prev hprev he

end Comparison

/-- The addresses of all tables of the version that there was, if there was one. -/
def previousAddresses (old : Option Database) : Finset String :=
  (old.map (·.addresses)).getD ∅

theorem Comparison.standing_start {c : Comparison} :
    c.standing [] = previousAddresses c.old := by
  rw [standing_nil, previousTables, previousAddresses]
  cases c.old <;> rfl

/-- **The moves of tables can be carried out** in the order of a plan that covers structure, each
finding its table there and its target free, and lead from the tables of one version to those of the
other, unless a table that gets both another schema and another name has to pass an address that is
taken: then they cannot. -/
theorem moves_carried_out [QueryReader] {old : Option Database} {new : Database}
    {newOrder oldOrder : Option (List OrderItem)} {style : Sql.Style} {options : Options} {p : Plan}
    (h : planWithOrders old new newOrder oldOrder style options = .ok p)
    (hdata : options.onlyData = false) (hnewDots : new.DotFree)
    (holdDots : ∀ db, old = some db → db.DotFree) :
    ∃ c, Comparison.make old new newOrder oldOrder style options = .ok c ∧
      (c.WayIsClear → run? (previousAddresses old) p.tableMoves = some new.addresses) ∧
      (¬ c.WayIsClear → run? (previousAddresses old) p.tableMoves = none) := by
  obtain ⟨hnew, hold, c, hmake, hp⟩ := planWithOrders_eq_ok_iff.1 h
  have hc := Comparison.wellMade_of_make (Database.coherent_of_validate hnew)
    (fun db hdb => Database.coherent_of_validate (hold db hdb)) hmake
  refine ⟨c, hmake, ?_⟩
  obtain ⟨-, -, -, rfl, rfl, rfl, -⟩ := Comparison.make_eq_ok_iff.1 hmake
  have ha := Comparison.addressed hmake hc hnewDots holdDots
  have hpairs := hc.pairsOff
  have hmem : ∀ item ∈ c.newTables, item ∈ c.new.tables := fun _ => hc.mem_newTables.1
  rw [Comparison.tableMoves_of_plan hp hdata, TableMove.run?_append, ← Comparison.standing_start]
  constructor
  · intro hclear
    rw [Comparison.run_flatMap_of_clear ha hpairs [] c.newTables hmem hc.nodup_newTables hclear]
    exact Comparison.run_drops ha hpairs hc
  · intro hblocked
    simp only [Comparison.WayIsClear, not_forall, not_not] at hblocked
    obtain ⟨front, item, back, he, hblocked⟩ := hblocked
    have hnodup := hc.nodup_newTables
    rw [he] at hmem hnodup ⊢
    rw [Comparison.run_flatMap_of_blocked ha hpairs [] front back hmem hnodup hblocked]
    rfl

/-! ### An address that is passed -/

attribute [local instance] QueryReader.blank

/-- A table with a number. -/
def Crossing.table (name : String) (oldSchema oldName : Option String) : Table where
  name
  oldName
  oldSchema
  columns := [{ name := "id", dataType := some "integer" }]

/-- Each of two schemas has a table; they have the same name unless said otherwise. -/
def Crossing.first (name : String) : Database where
  schemas := [
    { name := "s1", tables := [Crossing.table "t" none none] },
    { name := "s2", tables := [Crossing.table name none none] }]

/-- The table of the first schema has been moved to the second and renamed. -/
def Crossing.second (name : String) : Database where
  schemas := [
    { name := "s1" },
    { name := "s2"
      tables := [Crossing.table name none none, Crossing.table "u" (some "s1") (some "t")] }]

/-- The plan for the table that crosses over. -/
def Crossing.upgrade : Plan := [
  ⟨.stage1, .setTableSchema "s1.t" "s2"⟩,
  ⟨.stage1, .renameTable "s2.t" "u"⟩]

/-- Both versions side by side, where the names are different. -/
def Crossing.comparison : Comparison where
  old := some (Crossing.first "v")
  new := Crossing.second "v"
  newOrder := (Crossing.second "v").naturalOrder
  oldOrder := (Crossing.first "v").naturalOrder
  options := {}
  style := {}
  pairs := [(("s2", "u"), ("s1", "t")), (("s2", "v"), ("s2", "v"))]

/-- With nothing of its name in the other schema, a table crosses over. -/
theorem moves_carried_out_of_crossing :
    planWithOrders (some (Crossing.first "v")) (Crossing.second "v") none none {} {} =
        .ok Crossing.upgrade ∧
      run? {"s1.t", "s2.v"} Crossing.upgrade.tableMoves = some {"s2.v", "s2.u"} := by
  have h : planWithOrders (some (Crossing.first "v")) (Crossing.second "v") none none {} {} =
      .ok Crossing.upgrade := by
    decide +kernel
  have hold : ∀ db, some (Crossing.first "v") = some db → db.validate = .ok () ∧ db.DotFree := by
    rintro _ ⟨⟩
    decide +kernel
  have hmade : Comparison.make (some (Crossing.first "v")) (Crossing.second "v") none none {} {} =
      .ok Crossing.comparison :=
    Comparison.make_eq_ok_iff.2 ⟨rfl, rfl, by decide +kernel, rfl, rfl, rfl, rfl⟩
  obtain ⟨c, hmake, hclear, -⟩ :=
    moves_carried_out h rfl (by decide +kernel) fun db hdb => (hold db hdb).2
  obtain rfl : Crossing.comparison = c := Except.ok.inj (hmade.symm.trans hmake)
  have hc := Comparison.wellMade_of_make
    (Database.coherent_of_validate (by decide +kernel : (Crossing.second "v").validate = .ok ()))
    (fun db hdb => Database.coherent_of_validate (hold db hdb).1) hmake
  exact ⟨h, hclear (Comparison.wayIsClear_of_free hc (by decide +kernel))⟩

/-- **A table that crosses over is stopped** by another one of its former name: the plan has it
pass an address that is taken. -/
theorem moves_stopped_at_passing :
    (Crossing.first "t").DotFree ∧ (Crossing.second "t").DotFree ∧
      plan (some (Crossing.first "t")) (Crossing.second "t") {} {} = .ok Crossing.upgrade ∧
      run? (Crossing.first "t").addresses Crossing.upgrade.tableMoves = none := by
  decide +kernel

end SchemaPlan
