import SchemaPlan.Proofs.ConstraintMigration
import SchemaPlan.Proofs.GivenOrders
import SchemaPlan.Proofs.ViewRebuild

/-!
# Upgraded sequences

A sequence has all its options, whether they are declared or not (`SequenceOptions`): an increment
and a cache of one, and the start that `Sequence.defaultStart` gives.  Creating a sequence sets them
all but the owner, and altering one sets those that it names.

A sequence that is created has the options that are declared for it.  One that was there gets every
option but the start, which is altered only if its declaration changes: undeclared in both versions,
it stays what it was by default in the old one, though the increment or a bound that decides about
it may have changed (`startLeft`).  `sequences_upgraded` says so of the work on a schema,
`plan_upgrades_sequences` of a whole plan, and `start_left_behind` has a sequence whose start falls
below its minimum.
-/

namespace SchemaPlan

/-! ### Options -/

/-- The options of a sequence, whether they are declared or not. -/
structure SequenceOptions where
  start : Int
  increment : Int
  minValue : Option Int
  maxValue : Option Int
  cache : Int
  cycle : Bool
  ownedBy : Option String
deriving DecidableEq

/-- The options that are declared for a sequence, and what they are without. -/
def Sequence.options (s : Sequence) : SequenceOptions where
  start := s.start.getD s.defaultStart
  increment := s.increment.getD 1
  minValue := s.minValue
  maxValue := s.maxValue
  cache := s.cache.getD 1
  cycle := s.cycle
  ownedBy := s.ownedBy

@[simp] theorem Sequence.options_ownedBy (s : Sequence) : s.options.ownedBy = s.ownedBy :=
  rfl

/-- Options after changes: what is named is replaced, and the rest stays. -/
def SequenceChanges.apply (changes : SequenceChanges) (o : SequenceOptions) : SequenceOptions where
  start := changes.start.getD o.start
  increment := changes.increment.getD o.increment
  minValue := changes.minValue.getD o.minValue
  maxValue := changes.maxValue.getD o.maxValue
  cache := changes.cache.getD o.cache
  cycle := changes.cycle.getD o.cycle
  ownedBy := changes.ownedBy.getD o.ownedBy

/-- The address of the sequence that an operation works on. -/
def Op.sequence? : Op → Option String
  | .createSequence schema s => some (Sql.qualified schema s.name)
  | .alterSequence address _ => some address
  | .dropSequence address => some address
  | _ => none

/-- What an operation makes of the sequence that it works on.  A sequence that is created belongs to
no column yet. -/
def Op.onSequence : Op → Option SequenceOptions → Option SequenceOptions
  | .createSequence _ s, _ => some { s.options with ownedBy := none }
  | .alterSequence _ changes, before => before.map changes.apply
  | .dropSequence _, _ => none
  | _, before => before

/-- The operations on the sequence of an address. -/
def sequenceOps (address : String) (ops : List Op) : List Op :=
  ops.filter (·.sequence? == some address)

/-- What operations on a sequence make of it, one after the other. -/
def sequenceAfter (ops : List Op) (before : Option SequenceOptions) : Option SequenceOptions :=
  ops.foldl (fun s op => op.onSequence s) before

theorem sequenceAfter_append (a b : List Op) (before : Option SequenceOptions) :
    sequenceAfter (a ++ b) before = sequenceAfter b (sequenceAfter a before) :=
  List.foldl_append

/-- The start that a sequence is left with: the one it had, if both versions declare the same one or
none. -/
def startLeft (old : Option Sequence) (s : Sequence) : Int :=
  match old with
  | none => s.options.start
  | some o => if o.start = s.start then o.options.start else s.options.start

/-- **When a sequence is left with the start that it should have.** -/
theorem startLeft_eq_iff {old : Option Sequence} {s : Sequence} :
    startLeft old s = s.options.start ↔
      ∀ o, old = some o → o.start = none → s.start = none → o.defaultStart = s.defaultStart := by
  cases old with
  | none => simp [startLeft]
  | some o =>
    simp only [startLeft, Option.some.injEq, forall_eq']
    split
    next hstart =>
      cases hs : s.start with
      | none => simp [Sequence.options, hstart, hs]
      | some start => simp [Sequence.options, hstart, hs]
    next hstart =>
      refine iff_of_true rfl fun ho hs => ?_
      exact absurd (ho.trans hs.symm) hstart

/-! ### One sequence -/

section One

variable {α β : Type} [BEq α] [LawfulBEq α]

/-- An option is set to what it should be unless that is declared already. -/
theorem getD_change (f : α → β) (a b : α) :
    (if a == b then none else some (f b)).getD (f a) = f b := by
  by_cases h : a = b
  · simp [h]
  · simp [h]

theorem change_eq_none {a b : α} {x : β} : (if a == b then none else some x) = none ↔ a = b := by
  simp

end One

@[simp] theorem SequenceChanges.apply_none (o : SequenceOptions) :
    SequenceChanges.apply {} o = o :=
  rfl

/-- **The changes lead to the new options**, the start and the owner aside. -/
theorem apply_sequenceChanges (o s : Sequence) : (sequenceChanges o s).apply o.options =
    { s.options with start := startLeft (some o) s, ownedBy := o.ownedBy } := by
  have hstart : (if o.start == s.start then none else some (s.start.getD s.defaultStart)).getD
      o.options.start = startLeft (some o) s := by
    by_cases h : o.start = s.start
    · simp [startLeft, h]
    · simp [startLeft, h, Sequence.options]
  have hmin := getD_change id o.minValue s.minValue
  have hmax := getD_change id o.maxValue s.maxValue
  have hcycle := getD_change id o.cycle s.cycle
  have hincrement := getD_change (·.getD 1) o.increment s.increment
  have hcache := getD_change (·.getD 1) o.cache s.cache
  simp only [id] at hmin hmax hcycle
  simp only [SequenceChanges.apply, sequenceChanges, hstart]
  simp only [Sequence.options, hmin, hmax, hcycle, hincrement, hcache, Option.getD_none]

/-- Nothing changes exactly if the same is declared. -/
theorem sequenceChanges_eq_none_iff {o s : Sequence} : sequenceChanges o s = {} ↔
    o.start = s.start ∧ o.increment = s.increment ∧ o.minValue = s.minValue ∧
      o.maxValue = s.maxValue ∧ o.cache = s.cache ∧ o.cycle = s.cycle := by
  simp only [sequenceChanges, SequenceChanges.mk.injEq, change_eq_none, and_true]

section Work

variable {schema : String} {old : Option Sequence} {s : Sequence}

/-- The work on a sequence works on no other one. -/
theorem sequence?_of_mem_sequenceWork {op : Op} {place : Place}
    (h : op ∈ (sequenceWork schema old s).opsAt place) :
    op.sequence? = some (Sql.qualified schema s.name) := by
  cases place with
  | stage1 =>
    simp only [sequenceWork, Draft.opsAt] at h
    split at h
    · rw [List.mem_singleton.1 h]
      rfl
    · split at h
      · cases h
      · rw [List.mem_singleton.1 h]
        rfl
  | stage1Tail =>
    simp only [sequenceWork, Draft.opsAt] at h
    split at h
    · cases h
    · rw [List.mem_singleton.1 h]
      rfl
  | _ => cases h

/-- **What the work on a sequence makes of it.** -/
theorem sequenceAfter_sequenceWork :
    sequenceAfter ((sequenceWork schema old s).ofStage .stage1) (old.map (·.options)) =
      some { s.options with start := startLeft old s } := by
  have hparts : (sequenceWork schema old s).ofStage .stage1 =
      (sequenceWork schema old s).stage1 ++ (sequenceWork schema old s).stage1Tail := rfl
  -- The owner is set last, so up to then it is what it was.
  have hfirst : sequenceAfter (sequenceWork schema old s).stage1 (old.map (·.options)) =
      some { s.options with start := startLeft old s, ownedBy := old.bind (·.ownedBy) } := by
    cases old with
    | none => rfl
    | some o =>
      rw [Option.bind_some, ← apply_sequenceChanges]
      by_cases h : sequenceChanges o s = {}
      · simp [sequenceWork, sequenceAfter, h]
      · simp [sequenceWork, sequenceAfter, h, Op.onSequence]
  rw [hparts, sequenceAfter_append, hfirst]
  by_cases h : s.ownedBy = old.bind (·.ownedBy)
  · simp [sequenceWork, sequenceAfter, ← h]
  · simp [sequenceWork, sequenceAfter, h, Op.onSequence, SequenceChanges.apply]

/-- There is no work on a sequence exactly if it was there and the same is declared for it. -/
theorem sequenceWork_eq_nil_iff (hname : ∀ o, old = some o → o.name = s.name) :
    (sequenceWork schema old s).ofStage .stage1 = [] ↔
      ∃ o, old = some o ∧ { o with owner := s.owner, grants := s.grants } = s := by
  cases old with
  | none => simp [sequenceWork, Draft.ofStage]
  | some o =>
    have hnone : (sequenceWork schema (some o) s).ofStage .stage1 = [] ↔
        sequenceChanges o s = {} ∧ s.ownedBy = o.ownedBy := by
      simp [sequenceWork, Draft.ofStage]
    rw [hnone, sequenceChanges_eq_none_iff]
    obtain ⟨_, _, _, _, _, _, _, _, _, _⟩ := s
    simp only [Option.some.injEq, exists_eq_left', Sequence.mk.injEq, true_and, and_true,
      hname o rfl, and_assoc, eq_comm (b := o.ownedBy)]

/-- A sequence that was there is altered and no more. -/
theorem kind_of_mem_sequenceWork {o : Sequence} {op : Op}
    (h : op ∈ (sequenceWork schema (some o) s).ofStage .stage1) : op.kind = .alterSequence := by
  simp only [sequenceWork, Draft.ofStage, List.nil_append, List.mem_append] at h
  rcases h with h | h <;> split at h
  · cases h
  · rw [List.mem_singleton.1 h]
    rfl
  · cases h
  · rw [List.mem_singleton.1 h]
    rfl

end Work

/-! ### The sequences of a schema -/

namespace Comparison

variable {c : Comparison}

/-- The sequence of a name that there was. -/
def oldSequence? (c : Comparison) (schema name : String) : Option Sequence :=
  (c.oldSchema? schema).bind (·.sequence? name)

theorem name_of_oldSequence? {schema name : String} {o : Sequence}
    (h : c.oldSequence? schema name = some o) : o.name = name := by
  obtain ⟨s, -, ho⟩ := Option.bind_eq_some_iff.1 h
  simpa using List.find?_some ho

theorem opsAt_schemaSequenceWork (s : Schema) (place : Place) :
    (c.schemaSequenceWork s).opsAt place = s.sequences.flatMap fun q =>
      (sequenceWork s.name (c.oldSequence? s.name q.name) q).opsAt place := by
  rw [schemaSequenceWork, Draft.opsAt_join, List.flatMap_map]
  rfl

section Schema

variable {s : Schema} (hnames : (s.sequences.map (·.name)).Nodup) {q : Sequence}
  (hq : q ∈ s.sequences)

include hnames hq

/-- At each place, what concerns a sequence is the work on it. -/
theorem sequenceOps_opsAt (place : Place) :
    sequenceOps (Sql.qualified s.name q.name) ((c.schemaSequenceWork s).opsAt place) =
      (sequenceWork s.name (c.oldSequence? s.name q.name) q).opsAt place := by
  rw [opsAt_schemaSequenceWork]
  refine filter_flatMap_of_nodup (List.Nodup.of_map _ hnames) hq fun r hr op hop => ?_
  rw [sequence?_of_mem_sequenceWork hop, beq_iff_eq, Option.some.injEq]
  constructor
  · intro he
    exact List.inj_on_of_nodup_map hnames hr hq (Sql.name_of_qualified_eq he)
  · rintro rfl
    rfl

/-- **What concerns a sequence is the work on it.** -/
theorem sequenceOps_schemaSequenceWork :
    sequenceOps (Sql.qualified s.name q.name) ((c.schemaSequenceWork s).ofStage .stage1) =
      (sequenceWork s.name (c.oldSequence? s.name q.name) q).ofStage .stage1 := by
  have hat := sequenceOps_opsAt (c := c) hnames hq
  simp only [sequenceOps] at hat
  simp only [sequenceOps, Draft.ofStage, List.filter_append]
  exact congrArg₂ _ (congrArg₂ _ (hat .viewDrops) (hat .stage1)) (hat .stage1Tail)

end Schema

end Comparison

/-- **Sequences are upgraded, the start aside.**  Of the work on the sequences of a schema, what
concerns one of them leaves it with the options that are declared for it, if it is created; if it
was there it is altered only, and gets these options except that a start declared in neither version
stays as it was.  There is nothing to do exactly if the same is declared in both versions. -/
theorem sequences_upgraded (c : Comparison) {s : Schema}
    (hnames : (s.sequences.map (·.name)).Nodup) {q : Sequence} (hq : q ∈ s.sequences) :
    let old := c.oldSequence? s.name q.name
    let ops := sequenceOps (Sql.qualified s.name q.name) ((c.schemaSequenceWork s).ofStage .stage1)
    let after := sequenceAfter ops (old.map (·.options))
    after = some { q.options with start := startLeft old q } ∧
      (after = some q.options ↔ ∀ o, old = some o → o.start = none → q.start = none →
        o.defaultStart = q.defaultStart) ∧
      (ops = [] ↔ ∃ o, old = some o ∧ { o with owner := q.owner, grants := q.grants } = q) ∧
      (old.isSome → ∀ op ∈ ops, op.kind = .alterSequence) := by
  intro old ops after
  have hops : ops = (sequenceWork s.name old q).ofStage .stage1 :=
    Comparison.sequenceOps_schemaSequenceWork hnames hq
  have hafter : after = some { q.options with start := startLeft old q } := by
    show sequenceAfter ops _ = _
    rw [hops, sequenceAfter_sequenceWork]
  refine ⟨hafter, ?_, ?_, fun hold op hop => ?_⟩
  · rw [hafter, ← startLeft_eq_iff, Option.some.injEq]
    constructor
    · exact congrArg SequenceOptions.start
    · intro hstart
      rw [hstart]
  · rw [hops]
    exact sequenceWork_eq_nil_iff fun o ho => Comparison.name_of_oldSequence? ho
  · obtain ⟨o, ho⟩ := Option.isSome_iff_exists.1 hold
    rw [hops, ho] at hop
    exact kind_of_mem_sequenceWork hop

/-! ### The sequences of a plan -/

/-- The kinds of operations that work on a sequence. -/
def onSequenceKinds : List OpKind :=
  [.createSequence, .alterSequence, .dropSequence]

theorem Op.kind_of_sequence? {op : Op} {address : String} (h : op.sequence? = some address) :
    op.kind ∈ onSequenceKinds := by
  cases op with
  | createSequence | alterSequence | dropSequence => simp [Op.kind, onSequenceKinds]
  | _ => cases h

@[simp] theorem sequenceOps_append (address : String) (a b : List Op) :
    sequenceOps address (a ++ b) = sequenceOps address a ++ sequenceOps address b :=
  List.filter_append a b

theorem sequenceOps_eq_nil {kinds : List OpKind} {ops : List Op} {address : String}
    (h : OfKinds kinds ops) (hnot : ∀ kind ∈ kinds, kind ∉ onSequenceKinds) :
    sequenceOps address ops = [] := by
  refine List.filter_eq_nil_iff.2 fun op hop hsequence => ?_
  exact hnot _ (h op hop) (Op.kind_of_sequence? (beq_iff_eq.1 hsequence))

namespace Comparison

variable {c : Comparison} {p : Plan}

/-- Only the pass over sequences works on them, and the one that drops what is gone. -/
theorem sequenceOps_structureWork {work : Draft} (h : c.structureWork = .ok work) (address : String)
    (place : Place) : sequenceOps address (work.opsAt place) =
      sequenceOps address (c.newSchemas.flatMap fun s => (c.schemaSequenceWork s).opsAt place) ++
        sequenceOps address (c.dropRemoved.opsAt place) := by
  obtain ⟨types, drops, tables, adds, htypes, -, htables, hadds, rfl⟩ :=
    structureWork_eq_ok_iff.1 h
  have hfirst : ∀ {kinds : List OpKind} {ops : List Op}, OfKinds kinds ops →
      (∀ kind ∈ kinds, kind ∉ onSequenceKinds) →
      sequenceOps address ((Draft.first ops).opsAt place) = [] := by
    intro kinds ops hops hnot
    cases place with
    | stage1 => exact sequenceOps_eq_nil hops hnot
    | _ => rfl
  have hschemas := hfirst (ofKinds_flatMap.2 fun s (_ : s ∈ c.newSchemas) => ofKinds_schemaOps c s)
    (by decide)
  have hdrops := hfirst (ofKinds_dropConstraintOps drops) (by decide)
  have hadded := hfirst (ofKinds_of_mapM_addConstraints hadds) (by decide)
  have hprivileges := hfirst
    (ofKinds_flatMap.2 fun s (_ : s ∈ c.newSchemas) => ofKinds_schemaPrivilegeOps c s) (by decide)
  have htypePass : (Draft.join types).Within typePassKinds := Draft.within_join fun d hd => by
    obtain ⟨s, -, hs⟩ := exists_source_of_mapM htypes hd
    exact within_typePass hs
  have htablePass : (Draft.join tables).Within tablePassKinds := Draft.within_join fun d hd => by
    obtain ⟨item, -, hitem⟩ := exists_source_of_mapM htables hd
    exact within_tablePass hitem
  have htypeOps : sequenceOps address ((Draft.join types).opsAt place) = [] :=
    sequenceOps_eq_nil (htypePass place) (by cases place <;> decide)
  have htableOps : sequenceOps address ((Draft.join tables).opsAt place) = [] :=
    sequenceOps_eq_nil (htablePass place) (by cases place <;> decide)
  have htableDrops : sequenceOps address (c.dropTables.opsAt place) = [] :=
    sequenceOps_eq_nil (within_dropTables c place) (by cases place <;> decide)
  have hsequences : (Draft.join (c.newSchemas.map c.schemaSequenceWork)).opsAt place =
      c.newSchemas.flatMap fun s => (c.schemaSequenceWork s).opsAt place := by
    rw [Draft.opsAt_join, List.flatMap_map]
  simp only [Draft.opsAt_append, sequenceOps_append, hschemas, htypeOps, hdrops, hsequences,
    htableOps, hadded, htableDrops, hprivileges, List.nil_append, List.append_nil]

/-- A sequence is dropped if its schema is there and has none of that name. -/
theorem of_dropSequence_mem {op : Op} {address : String} {place : Place}
    (h : op ∈ c.dropRemoved.opsAt place) (hsequence : op.sequence? = some address) :
    ∃ db, c.old = some db ∧ ∃ s ∈ db.schemas, ∃ new, c.new.schema? s.name = some new ∧
      ∃ r : Sequence, new.sequence? r.name = none ∧ address = Sql.qualified s.name r.name := by
  cases hold : c.old with
  | none =>
    simp only [dropRemoved, hold, Draft.opsAt_empty] at h
    cases h
  | some db =>
    simp only [dropRemoved, hold] at h
    cases place with
    | stage3 =>
      rcases List.mem_append.1 h with h | h
      · obtain ⟨s, hs, h⟩ := List.mem_flatMap.1 h
        cases hnew : c.new.schema? s.name with
        | none => simp [hnew] at h
        | some new =>
          simp only [hnew, Option.map_some, Option.getD_some, removedObjects, List.mem_append,
            List.mem_map, List.mem_filter, Option.isNone_iff_eq_none] at h
          refine ⟨db, rfl, s, hs, new, hnew, ?_⟩
          rcases h with (⟨f, -, rfl⟩ | ⟨r, ⟨-, hr⟩, rfl⟩) | ⟨t, -, rfl⟩
          · cases hsequence
          · exact ⟨r, hr, (Option.some.inj hsequence).symm⟩
          · cases hsequence
      · obtain ⟨s, -, rfl⟩ := List.mem_map.1 h
        cases hsequence
    | _ => cases h

section Plan

variable (hc : c.WellMade) (hnewDots : c.new.DotFree)
  (holdDots : ∀ db, c.old = some db → db.DotFree)
  {s : Schema} (hs : s ∈ c.new.schemas) {q : Sequence} (hq : q ∈ s.sequences)

include hc hs hq

include hnewDots in
/-- Of the work on all sequences, what concerns one of them is the work on it. -/
theorem sequenceOps_schemas (place : Place) :
    sequenceOps (Sql.qualified s.name q.name)
        (c.newSchemas.flatMap fun s => (c.schemaSequenceWork s).opsAt place) =
      (sequenceWork s.name (c.oldSequence? s.name q.name) q).opsAt place := by
  rw [← sequenceOps_opsAt (hc.new.schemas s hs).sequenceNames hq place]
  refine filter_flatMap_of_others c.nodup_newSchemas ((mem_newSchemas hc.new).2 hs) ?_
  intro other hother hne op hop hsequence
  have hmem := (mem_newSchemas hc.new).1 hother
  rw [opsAt_schemaSequenceWork, List.mem_flatMap] at hop
  obtain ⟨r, -, hop⟩ := hop
  rw [sequence?_of_mem_sequenceWork hop, beq_iff_eq, Option.some.injEq,
    Sql.qualified_inj (hnewDots other hmem) (hnewDots s hs), Prod.mk.injEq] at hsequence
  exact hne (List.inj_on_of_nodup_map hc.new.schemaNames hmem hs hsequence.1)

include hnewDots holdDots in
/-- A sequence of the new version is not dropped. -/
theorem sequenceOps_dropRemoved (place : Place) :
    sequenceOps (Sql.qualified s.name q.name) (c.dropRemoved.opsAt place) = [] := by
  refine List.filter_eq_nil_iff.2 fun op hop hsequence => ?_
  obtain ⟨db, hold, s', hs', new, hnew, r, hr, he⟩ :=
    of_dropSequence_mem hop (beq_iff_eq.1 hsequence)
  obtain ⟨hname, hsame⟩ := Prod.mk.inj
    ((Sql.qualified_inj (hnewDots s hs) (holdDots db hold s' hs')).1 he)
  rw [← hname, hc.new.schema?_of_mem hs] at hnew
  obtain rfl := Option.some.inj hnew
  have hfound : s.sequence? q.name = some q :=
    find?_eq_some_of_nodup (hc.new.schemas s hs).sequenceNames hq
  rw [← hsame, hfound] at hr
  cases hr

include hnewDots holdDots in
/-- **What a plan does to a sequence is the work on it.** -/
theorem sequenceOps_plan [QueryReader] (h : c.plan = .ok p) (hdata : c.options.onlyData = false) :
    sequenceOps (Sql.qualified s.name q.name) p.ops =
      (sequenceWork s.name (c.oldSequence? s.name q.name) q).ofStage .stage1 := by
  rcases plan_cases h with ⟨hdata', -⟩ | ⟨-, work, rows, hwork, hrows, rfl⟩
  · cases hdata.symm.trans hdata'
  have hat : ∀ place, sequenceOps (Sql.qualified s.name q.name)
      ((work ++ c.viewWork work.isStructural ++ rows).opsAt place) =
        (sequenceWork s.name (c.oldSequence? s.name q.name) q).opsAt place := by
    intro place
    have hviews : sequenceOps (Sql.qualified s.name q.name)
        ((c.viewWork work.isStructural).opsAt place) = [] :=
      sequenceOps_eq_nil (within_viewWork c work.isStructural place) (by cases place <;> decide)
    have hrowOps : sequenceOps (Sql.qualified s.name q.name) (rows.opsAt place) = [] :=
      sequenceOps_eq_nil (within_rowsIfWanted hrows place) (by cases place <;> decide)
    simp only [Draft.opsAt_append, sequenceOps_append, hviews, hrowOps, List.append_nil,
      sequenceOps_structureWork hwork, sequenceOps_schemas hc hnewDots hs hq,
      sequenceOps_dropRemoved hc hnewDots holdDots hs hq]
  obtain ⟨own, hown, hops⟩ := (work ++ c.viewWork work.isStructural ++ rows).exists_own_statements
    c.customSql
  have hownNil : ∀ stage before,
      sequenceOps (Sql.qualified s.name q.name) (own stage before) = [] := fun stage before =>
    sequenceOps_eq_nil (hown stage before) (by decide)
  rw [hops]
  simp only [sequenceOps_append, hownNil, hat, List.nil_append, List.append_nil]
  simp [Draft.opsAt, Draft.ofStage, sequenceWork]

end Plan

end Comparison

/-- **A plan upgrades sequences, the start aside.**  Where no schema has a dot in its name, all
operations of a plan that covers structure leave each sequence with the options that are declared for
it, except that a start declared in neither version stays as it was. -/
theorem plan_upgrades_sequences [QueryReader] {old : Option Database} {new : Database}
    {newOrder oldOrder : Option (List OrderItem)} {style : Sql.Style} {options : Options} {p : Plan}
    (h : planWithOrders old new newOrder oldOrder style options = .ok p)
    (hdata : options.onlyData = false) (hnewDots : new.DotFree)
    (holdDots : ∀ db, old = some db → db.DotFree) {s : Schema} (hs : s ∈ new.schemas)
    {q : Sequence} (hq : q ∈ s.sequences) :
    let was := (old.bind (·.schema? s.name)).bind (·.sequence? q.name)
    sequenceAfter (sequenceOps (Sql.qualified s.name q.name) p.ops) (was.map (·.options)) =
      some { q.options with start := startLeft was q } := by
  obtain ⟨hnew, hvalid, c, hmake, hp⟩ := planWithOrders_eq_ok_iff.1 h
  have hc := Comparison.wellMade_of_make (Database.coherent_of_validate hnew)
    (fun db hdb => Database.coherent_of_validate (hvalid db hdb)) hmake
  obtain ⟨-, -, -, rfl, rfl, rfl, -⟩ := Comparison.make_eq_ok_iff.1 hmake
  intro was
  rw [Comparison.sequenceOps_plan hc hnewDots holdDots hs hq hp hdata]
  exact sequenceAfter_sequenceWork

/-! ### A cloakroom -/

attribute [local instance] QueryReader.blank

/-- The numbers that a cloakroom gives out. -/
def Cloakroom.numbers (increment minValue : Option Int) (ownedBy : Option String) : Sequence where
  name := "numbers"
  increment
  minValue
  ownedBy

/-- A cloakroom for coats with numbers. -/
def Cloakroom.schema (numbers : Sequence) : Schema where
  name := "cloakroom"
  tables := [{
    name := "coats"
    columns := [{ name := "number", dataType := some "integer" }] }]
  sequences := [numbers]

/-- The cloakroom by itself. -/
def Cloakroom.database (numbers : Sequence) : Database where
  schemas := [Cloakroom.schema numbers]

/-- Numbers of one version and of another, put side by side. -/
def Cloakroom.compare (old new : Sequence) : Comparison where
  old := some (Cloakroom.database old)
  new := Cloakroom.database new
  newOrder := [⟨"cloakroom", some "coats"⟩]
  oldOrder := [⟨"cloakroom", some "coats"⟩]
  options := {}
  style := {}
  pairs := [(("cloakroom", "coats"), ("cloakroom", "coats"))]

/-- Numbers in steps of five that go away with the coats: both are said, and the start is the same
without being said. -/
theorem sequences_upgraded_of_cloakroom :
    let o := Cloakroom.numbers none none none
    let q := Cloakroom.numbers (some 5) none (some "coats.number")
    let c := Cloakroom.compare o q
    let ops := sequenceOps (Sql.qualified "cloakroom" "numbers")
      ((c.schemaSequenceWork (Cloakroom.schema q)).ofStage .stage1)
    ops = [.alterSequence "cloakroom.numbers" { increment := some 5 },
        .alterSequence "cloakroom.numbers" { ownedBy := some (some "coats.number") }] ∧
      sequenceAfter ops (some o.options) = some q.options := by
  intro o q c ops
  have hold : c.oldSequence? "cloakroom" "numbers" = some o := by decide +kernel
  have hstart : ∀ o', some o = some o' → o'.start = none → q.start = none →
      o'.defaultStart = q.defaultStart := by
    rintro _ ⟨⟩ - -
    decide
  have hdone := (sequences_upgraded c (s := Cloakroom.schema q) (by decide) (q := q)
    List.mem_cons_self).2.1.2 (hold ▸ hstart)
  refine ⟨by decide +kernel, ?_⟩
  rwa [show c.oldSequence? (Cloakroom.schema q).name q.name = some o from hold] at hdone

/-- **A start is left behind.**  Numbers that are to be ten at least would start at ten if they were
created so, but those that there are still start at one, below their minimum: only the minimum is
altered. -/
theorem start_left_behind :
    let o := Cloakroom.numbers none none none
    let q := Cloakroom.numbers none (some 10) none
    (Cloakroom.database o).validate = .ok () ∧ (Cloakroom.database q).validate = .ok () ∧
      plan (some (Cloakroom.database o)) (Cloakroom.database q) {} {} =
        .ok [⟨.stage1, .alterSequence "cloakroom.numbers" { minValue := some (some 10) }⟩] ∧
      (Op.alterSequence "cloakroom.numbers" { minValue := some (some 10) }).sql {} =
        "ALTER SEQUENCE cloakroom.numbers MINVALUE 10;" ∧
      sequenceAfter [.alterSequence "cloakroom.numbers" { minValue := some (some 10) }]
        (some o.options) = some { q.options with start := 1 } ∧
      q.options.start = 10 := by
  decide +kernel

end SchemaPlan
