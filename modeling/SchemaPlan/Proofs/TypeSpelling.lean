import SchemaPlan.Proofs.TypeChanges

/-!
# Columns are found by how their types are written

A rebuild finds the columns of a type by the texts of their types.  A text that is nothing but the
name of a type means the types of that name in all schemas at once, whichever schema the column is
in: a column that means the type of its own schema is altered with a type of another schema exactly
if its type is written without a schema.

What becomes of the columns when all types are worked on follows type by type, since each rebuild
goes by the types that the columns had in the previous version: a column ends with the last rebuilt
type that its text means (`typeAfter`), or as it was.
-/

namespace SchemaPlan

/-! ### Texts of types -/

/-- The text of a type as it is compared, without quotes and in lower case. -/
def cleanedType (dataType : String) : String :=
  Text.lowercase (String.ofList ((Text.trimmed dataType).toList.filter (· != '\x22')))

/-- A type is written as the name of a type, without a schema. -/
def WrittenBare (dataType name : String) : Prop :=
  cleanedType dataType = Text.lowercase name

/-- A type is written as the name of a type with its schema. -/
def WrittenInFull (dataType schema name : String) : Prop :=
  cleanedType dataType = Text.lowercase schema ++ "." ++ Text.lowercase name

theorem refersToType_iff {dataType schema name : String} :
    refersToType dataType schema name = true ↔
      WrittenBare dataType name ∨ WrittenInFull dataType schema name := by
  rw [refersToType, Bool.or_eq_true, beq_iff_eq, beq_iff_eq]
  rfl

/-- What is written in full names one schema. -/
theorem WrittenInFull.lowercase_eq {dataType schema schema' name : String}
    (h : WrittenInFull dataType schema name) (h' : WrittenInFull dataType schema' name) :
    Text.lowercase schema = Text.lowercase schema' := by
  have he := congrArg String.toList (h.symm.trans h')
  simp only [String.toList_append] at he
  exact String.toList_inj.1 (List.append_cancel_right (List.append_cancel_right he))

/-- A column that means the type of its schema is taken for one of the type of another schema
exactly if the type is written without a schema. -/
theorem refersToType_iff_writtenBare {dataType schema own name : String}
    (hown : refersToType dataType own name = true)
    (hne : Text.lowercase own ≠ Text.lowercase schema) :
    refersToType dataType schema name = true ↔ WrittenBare dataType name := by
  constructor
  · intro hrefers
    rcases refersToType_iff.1 hown with hbare | hfull
    · exact hbare
    · exact (refersToType_iff.1 hrefers).resolve_right fun h => hne (hfull.lowercase_eq h)
  · exact fun hbare => refersToType_iff.2 (.inl hbare)

/-! ### The types of columns after types are rebuilt -/

/-- The type of a column after types are rebuilt: the last of them that it means, or else what it
was. -/
def typeAfter (style : Sql.Style) (rebuilt : List (String × String)) (dataType : String) : String :=
  match rebuilt.reverse.find? fun type => refersToType dataType type.1 type.2 with
  | some type => style.object type.1 type.2
  | none => dataType

theorem typeAfter_nil (style : Sql.Style) : typeAfter style [] = id :=
  rfl

theorem typeAfter_concat (style : Sql.Style) (rebuilt : List (String × String))
    (type : String × String) : typeAfter style (rebuilt ++ [type]) = fun dataType =>
      if refersToType dataType type.1 type.2 then style.object type.1 type.2
      else typeAfter style rebuilt dataType := by
  funext dataType
  rw [typeAfter, List.reverse_append, List.reverse_singleton, List.singleton_append,
    List.find?_cons]
  cases refersToType dataType type.1 type.2 <;> rfl

/-- A type that is not written without a schema stays, or is rebuilt as it is written. -/
theorem typeAfter_of_not_bare {style : Sql.Style} {rebuilt : List (String × String)}
    {dataType : String} (h : ∀ type ∈ rebuilt, ¬WrittenBare dataType type.2) :
    typeAfter style rebuilt dataType = dataType ∨ ∃ type ∈ rebuilt,
      WrittenInFull dataType type.1 type.2 ∧
        typeAfter style rebuilt dataType = style.object type.1 type.2 := by
  unfold typeAfter
  cases hfind : rebuilt.reverse.find? fun type => refersToType dataType type.1 type.2 with
  | none => exact .inl rfl
  | some type =>
    have hm := List.mem_reverse.1 (List.mem_of_find?_eq_some hfind)
    have hrefers := List.find?_some hfind
    exact .inr ⟨type, hm, (refersToType_iff.1 hrefers).resolve_left (h type hm), rfl⟩

namespace Comparison

/-- A type, by its schema and name, if it is rebuilt. -/
def rebuilt? (c : Comparison) (schema : String) (t : TypeDef) : Option (String × String) :=
  ((c.oldSchema? schema).bind (·.type? t.name)).bind fun old =>
    if requiresRebuild old t then some (schema, t.name) else none

/-- The types that are rebuilt, in the order in which they are. -/
def rebuiltTypes (c : Comparison) : List (String × String) :=
  c.newSchemas.flatMap fun s => s.types.filterMap (c.rebuilt? s.name)

/-- Operations rebuild types, whichever have been rebuilt before them. -/
def Rebuilds (c : Comparison) (old : Database) (types : List (String × String))
    (ops : List Op) : Prop :=
  ∀ before, (old.columnMap.retype (typeAfter c.style before)).run? ops =
    some (old.columnMap.retype (typeAfter c.style (before ++ types)))

section Runs

variable {c : Comparison} {old : Database}

theorem Rebuilds.append {types types' : List (String × String)} {a b : List Op}
    (ha : c.Rebuilds old types a) (hb : c.Rebuilds old types' b) :
    c.Rebuilds old (types ++ types') (a ++ b) := by
  intro before
  rw [← List.append_assoc]
  exact ColumnMap.run?_trans (ha before) (hb (before ++ types))

theorem rebuilds_nil {ops : List Op} (h : ∀ op ∈ ops, op.columnChange? = none) :
    c.Rebuilds old [] ops := by
  intro before
  rw [List.append_nil]
  exact ColumnMap.run?_of_others h

/-- What does things one after another rebuilds the types that each rebuilds. -/
theorem rebuilds_mapM {α : Type} {f : α → Except SchemaError (List Op)}
    {types : α → List (String × String)} {items : List α} {parts : List (List Op)}
    (hparts : items.mapM f = .ok parts)
    (h : ∀ item ops, f item = .ok ops → c.Rebuilds old (types item) ops) :
    c.Rebuilds old (items.flatMap types) parts.flatten := by
  have hall := mapM_eq_ok.1 hparts
  clear hparts
  induction hall with
  | nil => exact rebuilds_nil fun _ hop => absurd hop List.not_mem_nil
  | cons hitem _ ih =>
    rw [List.flatMap_cons, List.flatten_cons]
    exact (h _ _ hitem).append ih

variable (hc : c.WellMade) (hold : c.old = some old) (hdots : old.DotFree)

include hc hold hdots

/-- **The work on a type** rebuilds it, or leaves columns alone. -/
theorem rebuilds_typeOps {schema : String} {t : TypeDef} {ops : List Op}
    (h : c.typeOps schema t = .ok ops) : c.Rebuilds old (c.rebuilt? schema t).toList ops := by
  cases hprev : (c.oldSchema? schema).bind (·.type? t.name) with
  | none =>
    rw [typeOps, hprev] at h
    cases h
    rw [rebuilt?, hprev]
    exact rebuilds_nil (by simp [Op.columnChange?])
  | some prev =>
    cases hrebuild : requiresRebuild prev t with
    | true =>
      have hrebuilt : c.rebuilt? schema t = some (schema, t.name) := by
        rw [rebuilt?, hprev, Option.bind_some, if_pos hrebuild]
      rw [typeOps_of_rebuild hprev hrebuild, rebuildType_eq hc hold,
        name_of_type? hprev] at h
      cases h
      intro before
      have hcoherent := hc.old old hold
      have horder := hc.oldOrder old hold
      rw [hrebuilt, Option.toList_some, typeAfter_concat]
      refine ColumnMap.run?_trans (ColumnMap.run?_trans
        (run?_park hcoherent hdots horder schema t.name c.style _ _)
        (ColumnMap.run?_of_others ?_))
        (run?_restore hcoherent hdots horder schema t.name c.style _ _ _ _)
      simp [Op.columnChange?]
    | false =>
      rw [rebuilt?, hprev, Option.bind_some, hrebuild, if_neg Bool.false_ne_true]
      refine rebuilds_nil fun op hop => ?_
      rcases inPlace_of_typeOps hprev hrebuild h hop with ⟨_, _, rfl⟩ | ⟨_, rfl⟩
      · rfl
      · rfl

/-- **The work on all types** rebuilds those that cannot be changed in place. -/
theorem rebuilds_rebuiltTypes {parts : List (List Op)}
    (h : c.newSchemas.mapM c.schemaTypeOps = .ok parts) :
    c.Rebuilds old c.rebuiltTypes parts.flatten := by
  refine rebuilds_mapM h fun s ops hops => ?_
  obtain ⟨parts, hparts, he⟩ := bind_eq_ok.1 hops
  rw [← pure_eq_ok.1 he, List.filterMap_eq_flatMap_toList]
  exact rebuilds_mapM hparts fun t _ => rebuilds_typeOps hc hold hdots

end Runs

end Comparison

/-- **A rebuild goes by how types are written.**  It alters the columns that have a type that means
the type as it is written: its name, or its name with its schema, whatever the case and the quotes.
A column that means the type of that name in its own schema, which is another, is altered exactly if
its type is written without a schema.  The work on all types leaves each column with the last
rebuilt type that its type means, or as it was; if its type is not written as the mere name of a
rebuilt type, what it ends with is the type of the schema that it is written with. -/
theorem rebuilds_follow_spelling {old new : Database}
    {newOrder oldOrder : Option (List OrderItem)} {style : Sql.Style} {options : Options}
    {c : Comparison} (hold : old.validate = .ok ()) (hnew : new.validate = .ok ())
    (hmake : Comparison.make (some old) new newOrder oldOrder style options = .ok c) :
    (∀ schema (t prev : TypeDef), (old.schema? schema).bind (·.type? t.name) = some prev →
      requiresRebuild prev t = true → ∃ columns : List FoundColumn,
        c.typeOps schema t = .ok (
          columns.flatMap (parkColumn style (placeholder prev.body)) ++
          [.dropType (Sql.qualified schema t.name) prev.body.isDomain, .createType schema t] ++
          columns.flatMap
            (restoreColumn style (style.object schema t.name) (!t.body.isDomain))) ∧
        ∀ found ∈ old.tables, ∀ col ∈ found.2.columns, ∃ dataType,
          old.columnType found.1.name found.2.name col.name = .ok dataType ∧
          ((itemKey found, col) ∈ columns ↔ refersToType dataType schema t.name = true) ∧
          (Text.lowercase found.1.name ≠ Text.lowercase schema →
            refersToType dataType found.1.name t.name = true →
            ((itemKey found, col) ∈ columns ↔ WrittenBare dataType t.name))) ∧
    ∃ parts, c.newSchemas.mapM c.schemaTypeOps = .ok parts ∧ (old.DotFree →
      ∃ after, old.columnMap.run? parts.flatten = some after ∧
        ∀ k, (old.columnMap k = none → after k = none) ∧
          ∀ state, old.columnMap k = some state →
            after k = some
              { state with dataType := typeAfter style c.rebuiltTypes state.dataType } ∧
            ((∀ type ∈ c.rebuiltTypes, ¬WrittenBare state.dataType type.2) →
              after k = some state ∨ ∃ type ∈ c.rebuiltTypes,
                WrittenInFull state.dataType type.1 type.2 ∧
                after k = some { state with dataType := style.object type.1 type.2 })) := by
  have hcoherent := Database.coherent_of_validate hold
  have hc : c.WellMade := Comparison.wellMade_of_make (Database.coherent_of_validate hnew)
    (by rintro _ ⟨⟩; exact hcoherent) hmake
  obtain ⟨-, -, -, hcold, -, -, rfl⟩ := Comparison.make_eq_ok_iff.1 hmake
  constructor
  · intro schema t prev hprev hrebuild
    have hcprev : (c.oldSchema? schema).bind (·.type? t.name) = some prev := by
      rw [Comparison.oldSchema?, hcold]
      exact hprev
    have hops := (Comparison.typeOps_of_rebuild hcprev hrebuild).trans
      (Comparison.rebuildType_eq hc hcold)
    rw [name_of_type? hprev] at hops
    refine ⟨_, hops, fun found hm col hcol => ?_⟩
    obtain ⟨dataType, htype, hstate⟩ := hcoherent.exists_columnMap hm hcol
    have hmem := hcoherent.mem_typeColumns (hc.oldOrder old hcold) hm hcol hstate schema t.name
    exact ⟨dataType, htype, hmem, fun hne hown =>
      hmem.trans (refersToType_iff_writtenBare hown hne)⟩
  · choose own hown using Comparison.exists_schemaTypeOps hc
    have hparts := mapM_eq_ok_map fun s (_ : s ∈ c.newSchemas) => hown s
    refine ⟨_, hparts, fun hdots => ?_⟩
    have hrun := Comparison.rebuilds_rebuiltTypes hc hcold hdots hparts []
    rw [typeAfter_nil, ColumnMap.retype_id, List.nil_append] at hrun
    refine ⟨_, hrun, fun k => ⟨fun hk => ?_, fun state hk => ?_⟩⟩
    · rw [ColumnMap.retype, hk, Option.map_none]
    · rw [ColumnMap.retype_of_eq_some hk]
      refine ⟨rfl, fun hbare => ?_⟩
      rcases typeAfter_of_not_bare hbare with he | ⟨type, hm, hfull, he⟩
      · rw [he]
        exact .inl rfl
      · rw [he]
        exact .inr ⟨type, hm, hfull, rfl⟩

/-! ### A playhouse -/

attribute [local instance] QueryReader.blank

/-- The moods of a stage or of a house. -/
def Playhouse.mood (values : List String) : TypeDef where
  name := "mood"
  body := .enum values

/-- What was said and what was meant, in the moods of the house. -/
def Playhouse.lines : Table where
  name := "lines"
  columns := [
    { name := "said", dataType := some "mood" },
    { name := "meant", dataType := some "House.Mood" }]

/-- A stage and a house, which have moods of their own. -/
def Playhouse.version (moods : List String) : Database where
  schemas := [
    { name := "stage"
      types := [Playhouse.mood moods] },
    { name := "house"
      types := [Playhouse.mood ["low", "high"]]
      tables := [Playhouse.lines] }]

/-- What was said gets the moods of the stage when these are rebuilt, and what was meant stays,
since its type is written with its schema. -/
theorem rebuilds_follow_spelling_of_playhouse :
    ∃ (c : Comparison) (parts : List (List Op)) (after : ColumnMap),
      Comparison.make (some (Playhouse.version ["calm", "tense", "bored"]))
        (Playhouse.version ["calm", "tense"]) none none {} {} = .ok c ∧
      c.newSchemas.mapM c.schemaTypeOps = .ok parts ∧
      (Playhouse.version ["calm", "tense", "bored"]).columnMap.run? parts.flatten = some after ∧
      after ⟨"house", "lines", "said"⟩ = some { dataType := "stage.mood" } ∧
      after ⟨"house", "lines", "meant"⟩ = some { dataType := "House.Mood" } := by
  have hmade : (do
      let c ← Comparison.make (some (Playhouse.version ["calm", "tense", "bored"]))
        (Playhouse.version ["calm", "tense"]) none none {} {}
      return c.rebuiltTypes) = .ok [("stage", "mood")] := by
    decide +kernel
  obtain ⟨c, hmake, htypes⟩ := bind_eq_ok.1 hmade
  obtain ⟨-, parts, hparts, hrun⟩ :=
    rebuilds_follow_spelling (by decide +kernel) (by decide +kernel) hmake
  obtain ⟨after, hrun, hafter⟩ := hrun (by decide)
  rw [pure_eq_ok.1 htypes] at hafter
  have hsaid : (Playhouse.version ["calm", "tense", "bored"]).columnMap
      ⟨"house", "lines", "said"⟩ = some { dataType := "mood" } := by
    decide +kernel
  have hmeant : (Playhouse.version ["calm", "tense", "bored"]).columnMap
      ⟨"house", "lines", "meant"⟩ = some { dataType := "House.Mood" } := by
    decide +kernel
  have hsaidAfter : typeAfter {} [("stage", "mood")] "mood" = "stage.mood" := by decide +kernel
  have hmeantAfter : typeAfter {} [("stage", "mood")] "House.Mood" = "House.Mood" := by
    decide +kernel
  refine ⟨c, parts, after, hmake, hparts, hrun, ?_, ?_⟩
  · rw [((hafter _).2 _ hsaid).1, hsaidAfter]
  · rw [((hafter _).2 _ hmeant).1, hmeantAfter]

/-- **The moods of the house are taken for those of the stage** where they are not said to be of the
house: what was said is altered, although its type is declared as before and was not rebuilt. -/
theorem moods_mistaken :
    (Playhouse.version ["calm", "tense", "bored"]).validate = .ok () ∧
      (Playhouse.version ["calm", "tense"]).validate = .ok () ∧
      plan (some (Playhouse.version ["calm", "tense", "bored"]))
        (Playhouse.version ["calm", "tense"]) {} {} = .ok [
          ⟨.stage1, .alterColumn "house.lines" "said" (.type "text" (some "said::text"))⟩,
          ⟨.stage1, .dropType "stage.mood" false⟩,
          ⟨.stage1, .createType "stage" (Playhouse.mood ["calm", "tense"])⟩,
          ⟨.stage1, .alterColumn "house.lines" "said"
            (.type "stage.mood" (some "said::text::stage.mood"))⟩] := by
  refine ⟨?_, ?_, ?_⟩
  · decide +kernel
  · decide +kernel
  · decide +kernel

end SchemaPlan
