import SchemaPlan.Proofs.FunctionSignatures
import SchemaPlan.Proofs.Overloads
import SchemaPlan.Proofs.Stages
import SchemaPlan.Proofs.UnmanagedGrants

/-!
# Functions are told apart by how their types are written

Functions are known by their signatures, and a signature has the types of the arguments as they are
written, but for upper and lower case.  So functions that are alike, with the same name and the same
types of arguments, are one function if their types are spelled alike and two if they are not
(`functions_told_apart`).  Two of them may stand in one schema; and an upgrade that spells a type
otherwise creates the function beside the one that there was, and drops the latter in its third stage.

What is dropped there are the functions of schemas of both versions whose signature is gone
(`Comparison.droppedFunctions_stage3`).  `one_function_taken_for_two` has a function of `int` that
becomes one of `integer`.
-/

namespace SchemaPlan

/-! ### Functions that go away -/

/-- The function that is dropped: its address and the types of its arguments. -/
def Op.droppedFunction? : Op → Option (String × String)
  | .dropFunction name args => some (name, args)
  | _ => none

/-- The functions of schemas of both versions, each with its schema, whose signature the new version
does not have. -/
def functionsGone (old new : Database) : List (String × Routine) :=
  old.schemas.flatMap fun s => ((new.schema? s.name).map fun s' =>
    (s.functions.filter fun f => (s'.function? f.signature).isNone).map (s.name, ·)).getD []

theorem Op.kind_of_droppedFunction? {op : Op} (h : op.droppedFunction?.isSome) :
    op.kind = .dropFunction := by
  cases op <;> first | rfl | cases h

theorem filterMap_droppedFunction_eq_nil {kinds : List OpKind} {ops : List Op}
    (h : OfKinds kinds ops) (hnot : OpKind.dropFunction ∉ kinds) :
    ops.filterMap Op.droppedFunction? = [] := by
  refine List.filterMap_eq_nil_iff.2 fun op hop => Option.not_isSome_iff_eq_none.1 fun hsome => ?_
  exact hnot (Op.kind_of_droppedFunction? hsome ▸ h op hop)

theorem filterMap_droppedFunction_map {α : Type} {f : α → Op} {xs : List α}
    (h : ∀ x, (f x).droppedFunction? = none) : (xs.map f).filterMap Op.droppedFunction? = [] := by
  refine List.filterMap_eq_nil_iff.2 fun op hop => ?_
  obtain ⟨x, -, rfl⟩ := List.mem_map.1 hop
  exact h x

/-- A function goes away exactly if no function has its signature. -/
theorem mem_functionsGone {old new : Database} (hnew : new.Coherent) {s s' : Schema}
    (hs : s ∈ old.schemas) (hs' : s' ∈ new.schemas) (hname : s.name = s'.name) {f : Routine}
    (hf : f ∈ s.functions) :
    (s.name, f) ∈ functionsGone old new ↔ ∀ g ∈ s'.functions, g.signature ≠ f.signature := by
  have hfound : new.schema? s.name = some s' := hname ▸ hnew.schema?_of_mem hs'
  have hnone : s'.function? f.signature = none ↔ ∀ g ∈ s'.functions, g.signature ≠ f.signature := by
    simp [Schema.function?, List.find?_eq_none]
  rw [← hnone, functionsGone, List.mem_flatMap]
  constructor
  · rintro ⟨t, ht, hgone⟩
    cases ht' : new.schema? t.name with
    | none => simp [ht'] at hgone
    | some t' =>
      simp only [ht', Option.map_some, Option.getD_some, List.mem_map, List.mem_filter,
        Option.isNone_iff_eq_none, Prod.mk.injEq] at hgone
      obtain ⟨h, ⟨-, hgone⟩, hsame, rfl⟩ := hgone
      rw [hsame, hfound] at ht'
      rwa [Option.some.inj ht']
  · intro hgone
    refine ⟨s, hs, ?_⟩
    simp only [hfound, Option.map_some, Option.getD_some, List.mem_map, List.mem_filter,
      Option.isNone_iff_eq_none]
    exact ⟨f, ⟨hf, hgone⟩, rfl⟩

namespace Comparison

variable {c : Comparison} {p : Plan}

/-- How a function is dropped. -/
abbrev dropOf (item : String × Routine) : String × String :=
  (Sql.qualified item.1 item.2.name, item.2.argumentTypes)

theorem filterMap_removedObjects (s s' : Schema) :
    (removedObjects s s').filterMap Op.droppedFunction? =
      ((s.functions.filter fun f => (s'.function? f.signature).isNone).map (s.name, ·)).map
        dropOf := by
  have hdropped : (Op.droppedFunction? ∘ fun f : Routine =>
      .dropFunction (Sql.qualified s.name f.name) f.argumentTypes) =
        some ∘ (dropOf ∘ (s.name, ·)) := rfl
  rw [removedObjects, List.filterMap_append, List.filterMap_append,
    filterMap_droppedFunction_map fun _ : Sequence => rfl,
    filterMap_droppedFunction_map fun _ : TypeDef => rfl, List.append_nil, List.append_nil,
    List.filterMap_map, hdropped, List.filterMap_eq_map, List.map_map]

theorem filterMap_dropRemoved {db : Database} (hold : c.old = some db) :
    (c.dropRemoved.opsAt .stage3).filterMap Op.droppedFunction? =
      (functionsGone db c.new).map dropOf := by
  have hops : c.dropRemoved.opsAt .stage3 =
      (db.schemas.flatMap fun s => ((c.new.schema? s.name).map (removedObjects s)).getD []) ++
        (db.schemas.filter fun s => (c.new.schema? s.name).isNone).map (.dropSchema ·.name) := by
    simp only [dropRemoved, hold]
    rfl
  rw [hops, List.filterMap_append, filterMap_droppedFunction_map fun _ : Schema => rfl,
    List.append_nil, List.filterMap_flatMap, functionsGone, List.map_flatMap]
  refine congrArg (List.flatMap · _) (funext fun s => ?_)
  cases c.new.schema? s.name with
  | none => rfl
  | some s' => exact filterMap_removedObjects s s'

/-- In the third stage functions are dropped with what is gone, and otherwise not. -/
theorem filterMap_structureWork {work : Draft} (h : c.structureWork = .ok work) :
    (work.opsAt .stage3).filterMap Op.droppedFunction? =
      (c.dropRemoved.opsAt .stage3).filterMap Op.droppedFunction? := by
  obtain ⟨tables, hstage, htables⟩ := exists_stage3_before_removed h
  rw [hstage, List.filterMap_append, filterMap_droppedFunction_eq_nil htables (by decide),
    List.nil_append]

/-- **The functions that a plan drops in its third stage** are those whose signature is gone. -/
theorem droppedFunctions_stage3 [QueryReader] {db : Database} (h : c.plan = .ok p)
    (hold : c.old = some db) (hdata : c.options.onlyData = false) :
    (p.inStage .stage3).filterMap Op.droppedFunction? = (functionsGone db c.new).map dropOf := by
  rcases plan_cases h with ⟨hdata', -⟩ | ⟨-, work, rows, hwork, hrows, rfl⟩
  · cases hdata.symm.trans hdata'
  have hown : ∀ custom : List CustomSql,
      (custom.flatMap Draft.customOps).filterMap Op.droppedFunction? = [] :=
    fun custom => filterMap_droppedFunction_eq_nil (ofKinds_custom custom) (by decide)
  have hviews : (c.viewWork work.isStructural).opsAt .stage3 = [] :=
    (within_viewWork c _ .stage3).eq_nil
  have hcreates : ((work ++ c.viewWork work.isStructural ++ rows).opsAt
      .viewCreates).filterMap Op.droppedFunction? = [] :=
    filterMap_droppedFunction_eq_nil (within_planKinds hwork hrows _ .viewCreates) (by decide)
  have hstage : (work ++ c.viewWork work.isStructural ++ rows).ofStage .stage3 =
      (work ++ c.viewWork work.isStructural ++ rows).opsAt .stage3 ++
        (work ++ c.viewWork work.isStructural ++ rows).opsAt .viewCreates := rfl
  rw [Draft.inStage_toPlan, Draft.stageOps, List.filterMap_append, List.filterMap_append, hown, hown,
    hstage, List.filterMap_append, hcreates, Draft.opsAt_append, Draft.opsAt_append, hviews,
    (within_rowsIfWanted hrows .stage3).eq_nil, ← filterMap_dropRemoved hold,
    ← filterMap_structureWork hwork]
  simp

/-- **A function is created beside one that goes away** exactly if their signatures differ, where
nothing else has the signature of either. -/
theorem created_and_gone_iff [QueryReader] {db : Database} (h : c.plan = .ok p)
    (hold : c.old = some db) (hc : c.WellMade) (hdata : c.options.onlyData = false) {s s' : Schema}
    (hs : s ∈ db.schemas) (hs' : s' ∈ c.new.schemas) (hname : s.name = s'.name) {f g : Routine}
    (hf : f ∈ s.functions) (hg : g ∈ s'.functions)
    (hold' : ∀ k ∈ s.functions, k.signature = g.signature → k = f)
    (hnew' : ∀ k ∈ s'.functions, k.signature = f.signature → k = g) :
    .createFunction s'.name g false ∈ p.ops ∧ (s.name, f) ∈ functionsGone db c.new ↔
      f.signature ≠ g.signature := by
  have hwas : c.oldSchema? s'.name = some s := by
    rw [oldSchema?, hold, Option.bind_some, ← hname]
    exact (hc.old db hold).schema?_of_mem hs
  rw [mem_functionsGone hc.new hs hs' hname hf, createsFunction_iff h hc.new hs' hg, hwas,
    Option.bind_some]
  constructor
  · rintro ⟨-, hgone⟩ hsame
    exact hgone g hg hsame.symm
  · intro hne
    refine ⟨⟨hdata, fun o ho => ?_⟩, fun k hk hsame => ?_⟩
    · have hsame : o.signature = g.signature := by simpa using List.find?_some ho
      rw [hold' o (List.mem_of_find?_eq_some ho) hsame] at hsame
      exact absurd hsame hne
    · rw [hnew' k hk hsame] at hsame
      exact hne hsame.symm

end Comparison

/-! ### Functions that are alike -/

/-- Functions that are alike and stand in one schema of a valid definition are spelled otherwise. -/
theorem Routine.Alike.spelling_ne_of_validate {f g : Routine} (h : f.Alike g) {db : Database}
    {u : Unit} (hdb : db.validate = .ok u) {s : Schema} (hs : s ∈ db.schemas)
    {front middle back : List Routine}
    (hfunctions : s.functions = front ++ f :: (middle ++ g :: back)) : f.spelling ≠ g.spelling := by
  have hnodup := ((Database.coherent_of_validate hdb).schemas s hs).signatures
  rw [hfunctions, List.map_append, List.map_cons, List.nodup_middle, List.nodup_cons] at hnodup
  rw [ne_eq, ← h.signature_eq_iff]
  intro hsame
  exact hnodup.1 (by simp [hsame])

/-- A function that is alike to one of a valid definition is an ambiguous overload in it exactly if it
is spelled alike. -/
theorem Routine.Alike.validate_withFunctionsIn {f g : Routine} (h : f.Alike g) {db : Database}
    {u : Unit} (hdb : db.validate = .ok u) {s : Schema} (hs : s ∈ db.schemas)
    (hf : f ∈ s.functions) (hothers : ∀ k ∈ s.functions, k.signature = g.signature → k = f)
    {front back : List Routine} (hfunctions : s.functions = front ++ back) :
    (db.withFunctionsIn s.name (front ++ g :: back)).validate =
      if f.spelling = g.spelling then
        .error (.definition (s.name ++ "." ++ g.signature) .ambiguousOverload)
      else .ok () := by
  have htaken : g.signature ∈ s.functions.map (·.signature) ↔ f.spelling = g.spelling := by
    rw [← h.signature_eq_iff, List.mem_map]
    constructor
    · rintro ⟨k, hk, hsame⟩
      rwa [hothers k hk hsame] at hsame
    · exact fun hsame => ⟨f, hf, hsame⟩
  rw [Database.validate_withFunctionsIn hdb hs hfunctions]
  exact if_congr htaken rfl rfl

/-- **Functions of one name with the same types are told apart by how these are written.**  Their
signatures are the same exactly if their types are, up to upper and lower case.  Validation refuses
both together, as an ambiguous overload, exactly if they are spelled alike.  And an upgrade from one
to the other creates the new one without replacing any and drops the old one in the third stage,
exactly if they are not; what is dropped there are the functions that are gone, in their order. -/
theorem functions_told_apart [QueryReader] {f g : Routine} (halike : f.Alike g) :
    (f.signature = g.signature ↔ f.spelling = g.spelling) ∧
    (∀ (db : Database) (u : Unit), db.validate = .ok u → ∀ s ∈ db.schemas,
      (∀ front middle back, s.functions = front ++ f :: (middle ++ g :: back) →
        f.spelling ≠ g.spelling) ∧
      (f ∈ s.functions → (∀ k ∈ s.functions, k.signature = g.signature → k = f) →
        ∀ front back, s.functions = front ++ back →
          (db.withFunctionsIn s.name (front ++ g :: back)).validate =
            if f.spelling = g.spelling then
              .error (.definition (s.name ++ "." ++ g.signature) .ambiguousOverload)
            else .ok ())) ∧
    (∀ (old new : Database) (newOrder oldOrder : Option (List OrderItem)) (style : Sql.Style)
      (options : Options) (p : Plan),
      planWithOrders (some old) new newOrder oldOrder style options = .ok p →
      options.onlyData = false →
        (p.inStage .stage3).filterMap Op.droppedFunction? =
          (functionsGone old new).map Comparison.dropOf ∧
        ∀ s ∈ old.schemas, ∀ s' ∈ new.schemas, s.name = s'.name → f ∈ s.functions →
          g ∈ s'.functions → (∀ k ∈ s.functions, k.signature = g.signature → k = f) →
          (∀ k ∈ s'.functions, k.signature = f.signature → k = g) →
            (.createFunction s'.name g false ∈ p.ops ∧ (s.name, f) ∈ functionsGone old new ↔
              f.spelling ≠ g.spelling)) := by
  refine ⟨halike.signature_eq_iff, fun db u hdb s hs => ⟨?_, ?_⟩, ?_⟩
  · intro front middle back hfunctions
    exact halike.spelling_ne_of_validate hdb hs hfunctions
  · intro hf hothers front back hfunctions
    exact halike.validate_withFunctionsIn hdb hs hf hothers hfunctions
  · intro old new newOrder oldOrder style options p h hdata
    obtain ⟨hnew, hvalid, c, hmake, hp⟩ := planWithOrders_eq_ok_iff.1 h
    have hc := Comparison.wellMade_of_make (Database.coherent_of_validate hnew)
      (fun db hdb => Database.coherent_of_validate (hvalid db hdb)) hmake
    obtain ⟨-, -, -, hold, rfl, rfl, -⟩ := Comparison.make_eq_ok_iff.1 hmake
    refine ⟨Comparison.droppedFunctions_stage3 hp hold hdata, ?_⟩
    intro s hs s' hs' hname hf hg hold' hnew'
    rw [Comparison.created_and_gone_iff hp hold hc hdata hs hs' hname hf hg hold' hnew', ne_eq,
      halike.signature_eq_iff]

/-! ### A kitchen -/

attribute [local instance] QueryReader.blank

/-- How many portions there are for so many guests. -/
def Kitchen.portions (type : String) : Routine where
  name := "portions"
  arguments := [{ name := some "guests", dataType := type }]
  returns := "integer"
  language := "sql"
  definition := "SELECT 2 * guests"

/-- A kitchen with functions. -/
def Kitchen.database (functions : List Routine) : Database where
  schemas := [{ name := "kitchen", functions }]

/-- The plan for the function to be written with another type. -/
def Kitchen.upgrade : Plan := [
  ⟨.stage1, .createFunction "kitchen" (Kitchen.portions "integer") false⟩,
  ⟨.stage3, .dropFunction "kitchen.portions" "int"⟩]

theorem Kitchen.alike_portions {a b : String} (h : Sql.TypeName.same a b = true) :
    (Kitchen.portions a).Alike (Kitchen.portions b) :=
  ⟨rfl, .cons h .nil⟩

/-- A function of `INT` is refused beside one of `int`, and one of `integer` is created beside it. -/
theorem functions_told_apart_of_kitchen :
    ((Kitchen.database [Kitchen.portions "int"]).withFunctionsIn "kitchen"
        [Kitchen.portions "int", Kitchen.portions "INT"]).validate =
      .error (.definition "kitchen.portions(int)" .ambiguousOverload) ∧
    planWithOrders (some (Kitchen.database [Kitchen.portions "int"]))
        (Kitchen.database [Kitchen.portions "integer"]) none none {} {} = .ok Kitchen.upgrade ∧
    (.createFunction "kitchen" (Kitchen.portions "integer") false ∈ Kitchen.upgrade.ops ∧
      ("kitchen", Kitchen.portions "int") ∈ functionsGone
        (Kitchen.database [Kitchen.portions "int"])
        (Kitchen.database [Kitchen.portions "integer"])) := by
  have hvalid : (Kitchen.database [Kitchen.portions "int"]).validate = .ok () := by decide +kernel
  have hplan : planWithOrders (some (Kitchen.database [Kitchen.portions "int"]))
      (Kitchen.database [Kitchen.portions "integer"]) none none {} {} = .ok Kitchen.upgrade := by
    decide +kernel
  have honly : ∀ a b : String, ∀ k ∈ [Kitchen.portions a],
      k.signature = (Kitchen.portions b).signature → k = Kitchen.portions a :=
    fun a b k hk _ => List.mem_singleton.1 hk
  refine ⟨?refused, hplan, ?created⟩
  case refused =>
    have halike := Kitchen.alike_portions (by decide +kernel : Sql.TypeName.same "int" "INT" = true)
    have htogether := ((functions_told_apart halike).2.1 _ _ hvalid _ (.head _)).2 (.head _)
      (honly "int" "INT") [Kitchen.portions "int"] [] rfl
    rwa [if_pos (by decide +kernel)] at htogether
  case created =>
    have halike :=
      Kitchen.alike_portions (by decide +kernel : Sql.TypeName.same "int" "integer" = true)
    exact (((functions_told_apart halike).2.2 _ _ _ _ _ _ _ hplan rfl).2 _ (.head _) _ (.head _) rfl
      (.head _) (.head _) (honly "int" "integer") (honly "integer" "int")).2 (by decide +kernel)

/-- **One function is taken for two.**  `int` and `integer` are one type; but a definition with a
function of either is valid, and an upgrade that only writes one for the other creates the function
that there is already, and drops it in the end. -/
theorem one_function_taken_for_two :
    (Kitchen.portions "int").name = (Kitchen.portions "integer").name ∧
      Sql.TypeName.same "int" "integer" = true ∧
      (Kitchen.portions "int").signature = "portions(int)" ∧
      (Kitchen.portions "integer").signature = "portions(integer)" ∧
      (Kitchen.database [Kitchen.portions "int", Kitchen.portions "integer"]).validate = .ok () ∧
      plan (some (Kitchen.database [Kitchen.portions "int"]))
        (Kitchen.database [Kitchen.portions "integer"]) {} {} = .ok Kitchen.upgrade ∧
      Kitchen.upgrade.ops.map (·.sql {}) = [
        "CREATE FUNCTION kitchen.portions(guests integer) RETURNS integer LANGUAGE sql AS " ++
          "$$SELECT 2 * guests$$;",
        "DROP FUNCTION kitchen.portions(int);"] := by
  decide +kernel

end SchemaPlan
