import SchemaPlan.Proofs.Coherence
import SchemaPlan.Proofs.TypeReferences

/-!
# Ambiguous overloads

Functions of a schema are checked for their signatures, and nothing else that is checked looks at
them: tables, columns and their types are found in a definition whatever functions it has
(`columnType_withFunctions`), so all other checks turn out the same.

`validate_withFunctions` is the main statement: a valid definition that is given other functions is
refused exactly if a schema has a signature twice, as an ambiguous overload, and the first function
whose signature is taken is named.
-/

namespace SchemaPlan

/-- **The first function whose signature is taken is an ambiguous overload.** -/
theorem checkSignatures_of_taken {schema : String} {front back : List Routine} {f : Routine}
    (hfront : (front.map (·.signature)).Nodup) (hf : f.signature ∈ front.map (·.signature)) :
    checkSignatures schema (front ++ f :: back) =
      .error (.definition (schema ++ "." ++ f.signature) .ambiguousOverload) := by
  rw [checkSignatures, checkEach_eq_error]
  refine ⟨front.map (·.signature), f.signature, back.map (·.signature), by simp, ?_, ?_⟩
  · have hok : checkSignatures schema front = .ok () := checkSignatures_eq_ok.2 hfront
    exact hok
  · rw [ensure, if_neg (by simpa using hf)]

/-- A signature that is taken is refused wherever the function with it stands. -/
theorem checkSignatures_insert {schema : String} {front back : List Routine} {g : Routine}
    (hnodup : ((front ++ back).map (·.signature)).Nodup)
    (hg : g.signature ∈ (front ++ back).map (·.signature)) :
    checkSignatures schema (front ++ g :: back) =
      .error (.definition (schema ++ "." ++ g.signature) .ambiguousOverload) := by
  by_cases hfront : g.signature ∈ front.map (·.signature)
  · refine checkSignatures_of_taken ?_ hfront
    rw [List.map_append, List.nodup_append] at hnodup
    exact hnodup.1
  · -- The function that has the signature already stands behind, so it is the one that is refused.
    have hback : g.signature ∈ back.map (·.signature) := by
      rw [List.map_append, List.mem_append] at hg
      exact hg.resolve_left hfront
    obtain ⟨f, hf, hsame⟩ := List.mem_map.1 hback
    obtain ⟨middle, rest, rfl⟩ := List.append_of_mem hf
    have hsplit : ((front ++ middle).map (·.signature) ++
        f.signature :: rest.map (·.signature)).Nodup := by
      simpa using hnodup
    have hmoved : (f.signature :: (front ++ middle).map (·.signature)).Nodup :=
      (List.nodup_middle.1 hsplit).sublist (by simp)
    have hbefore : ((front ++ g :: middle).map (·.signature)).Nodup := by
      rw [hsame, List.map_append] at hmoved
      rw [List.map_append, List.map_cons]
      exact List.nodup_middle.2 hmoved
    have hrefused : checkSignatures schema ((front ++ g :: middle) ++ f :: rest) =
        .error (.definition (schema ++ "." ++ f.signature) .ambiguousOverload) :=
      checkSignatures_of_taken hbefore (by simp [hsame])
    rw [← hsame]
    simpa using hrefused

/-! ### What functions do not matter for -/

/-- A schema with other functions. -/
def Schema.withFunctions (s : Schema) (functions : List Routine) : Schema :=
  { s with functions }

@[simp] theorem Schema.withFunctions_name (s : Schema) (functions : List Routine) :
    (s.withFunctions functions).name = s.name :=
  rfl

namespace Database

/-- A definition whose schemas are given other functions. -/
def withFunctions (db : Database) (functions : Schema → List Routine) : Database :=
  { db with schemas := db.schemas.map fun s => s.withFunctions (functions s) }

variable {db : Database} {functions : Schema → List Routine}

theorem schema?_withFunctions (name : String) : (db.withFunctions functions).schema? name =
    (db.schema? name).map fun s => s.withFunctions (functions s) := by
  rw [schema?, schema?, withFunctions, List.find?_map]
  rfl

theorem table?_withFunctions (schema table : String) :
    (db.withFunctions functions).table? schema table =
      (db.table? schema table).map fun (s, t) => (s.withFunctions (functions s), t) := by
  simp only [table?, schema?_withFunctions, bind, pure]
  cases db.schema? schema with
  | none => rfl
  | some s =>
    simp only [Option.map_some, Option.bind_some]
    show (s.table? table).bind _ = _
    cases s.table? table <;> rfl

theorem ancestryFrom_withFunctions (visited : List TableKey) (key : TableKey) :
    (db.withFunctions functions).ancestryFrom visited key =
      (db.ancestryFrom visited key).map fun (s, t) => (s.withFunctions (functions s), t) := by
  fun_induction ancestryFrom db visited key with
  | case1 visited key hv => rw [ancestryFrom, dif_pos hv, List.map_nil]
  | case2 visited key hv hnone =>
    rw [ancestryFrom, dif_neg hv]
    split
    next => rfl
    next hfound =>
      rw [table?_withFunctions, hnone] at hfound
      cases hfound
  | case3 visited key hv s t hk ih =>
    rw [ancestryFrom, dif_neg hv]
    split
    next hnone =>
      rw [table?_withFunctions, hk] at hnone
      cases hnone
    next hfound =>
      rw [table?_withFunctions, hk] at hfound
      obtain ⟨rfl, rfl⟩ := Prod.mk.inj (Option.some.inj hfound)
      cases hparent : t.inherits with
      | none => rfl
      | some parent => exact congrArg _ (ih parent)

theorem findColumn?_withFunctions (schema table column : String) :
    (db.withFunctions functions).findColumn? schema table column =
      (db.findColumn? schema table column).map fun (s, t, c) =>
        (s.withFunctions (functions s), t, c) := by
  rw [findColumn?, ancestry, ancestryFrom_withFunctions, List.findSome?_map, findColumn?, ancestry,
    List.map_findSome?]
  refine congrArg (List.findSome? · _) (funext fun (s, t) => ?_)
  simp [Function.comp_def]

theorem typeTarget?_withFunctions (k : ColumnKey) :
    (db.withFunctions functions).typeTarget? k = db.typeTarget? k := by
  rw [typeTarget?, typeTarget?, findColumn?_withFunctions]
  cases db.findColumn? k.schema k.table k.column <;> rfl

theorem ending_withFunctions (start : ColumnKey) (own : Bool) (last : ColumnKey) :
    (db.withFunctions functions).ending start own last = db.ending start own last := by
  rw [ending, ending, findColumn?_withFunctions]
  cases db.findColumn? last.schema last.table last.column <;> rfl

/-- **The type of a column does not depend on functions.** -/
theorem columnType_withFunctions (schema table column : String) :
    (db.withFunctions functions).columnType schema table column =
      db.columnType schema table column := by
  have hfrom : ∀ (start : ColumnKey) (visited : List ColumnKey) (key : ColumnKey),
      (db.withFunctions functions).columnTypeFrom start visited key =
        db.columnTypeFrom start visited key := by
    intro start visited key
    have hend : ∀ {visited : List ColumnKey} {k : ColumnKey}, k ∉ visited →
        db.typeTarget? k = none → (db.withFunctions functions).columnTypeFrom start visited k =
          db.ending start visited.isEmpty k := fun hv hend => by
      rw [columnTypeFrom_of_end hv ((typeTarget?_withFunctions _).trans hend), ending_withFunctions]
    fun_induction columnTypeFrom db start visited key with
    | case1 visited key hv => rw [columnTypeFrom, dif_pos hv]
    | case2 visited key hv hnone => rw [hend hv (by rw [typeTarget?, hnone]), ending, hnone]
    | case3 visited key hv s t c hfound type htype =>
      rw [hend hv (by rw [typeTarget?_of_found hfound, htype]), ending_of_found hfound, htype]
    | case4 visited key hv s t c hfound hfk htype =>
      rw [hend hv (by rw [typeTarget?_of_found hfound, htype, hfk]), ending_of_found hfound, htype]
    | case5 visited key hv s t c hfound fk hfk htype ih =>
      have hnext : db.typeTarget? key = some (ColumnKey.target s c fk) := by
        rw [typeTarget?_of_found hfound, htype, hfk]
      rw [columnTypeFrom_of_target hv ((typeTarget?_withFunctions key).trans hnext)]
      exact ih
  exact hfrom _ _ _

theorem checkTable_withFunctions (schema : String) (t : Table) :
    checkTable (db.withFunctions functions) schema t = checkTable db schema t := by
  have hcolumn : checkColumn (db.withFunctions functions) schema t = checkColumn db schema t := by
    funext before c
    simp only [checkColumn, columnType_withFunctions]
  have htarget : checkTarget (db.withFunctions functions) schema t = checkTarget db schema t := by
    funext c
    simp only [checkTarget, table?_withFunctions, Option.isSome_map]
  have hrows : checkRows (db.withFunctions functions) schema t = checkRows db schema t := by
    funext rows
    simp only [checkRows, findColumn?_withFunctions, Option.isSome_map]
  simp only [checkTable, hcolumn, htarget, hrows, table?_withFunctions, findColumn?_withFunctions,
    Option.isSome_map]

/-- A schema that is in order is checked for the signatures of the functions that it is given. -/
theorem checkSchema_withFunctions {s : Schema} {u : Unit} (h : checkSchema db s = .ok u)
    (own : List Routine) : checkSchema (db.withFunctions functions) (s.withFunctions own) =
      checkSignatures s.name own := by
  simp only [checkSchema, bind_eq_ok] at h
  obtain ⟨_, htables, _, hsequences, _, htypes, _, hviews, _, -, _, htriggers, hall⟩ := h
  have hcheck : checkTable (db.withFunctions functions) s.name = checkTable db s.name :=
    funext fun t => checkTable_withFunctions s.name t
  have htrigger : checkTrigger (s.withFunctions own) = checkTrigger s := rfl
  simp only [checkSchema, Schema.withFunctions] at htrigger ⊢
  rw [htables, hsequences, htypes, hviews, htrigger, htriggers, hcheck, hall]
  show (checkSignatures s.name own >>= fun _ => .ok ()) = _
  cases checkSignatures s.name own <;> rfl

/-- **A valid definition that is given other functions is valid exactly as far as their signatures
are.** -/
theorem validate_withFunctions {u : Unit} (h : db.validate = .ok u) :
    (db.withFunctions functions).validate =
      checkAll db.schemas fun s => checkSignatures s.name (functions s) := by
  refine checkEach_map fun front s back he => ?_
  have hsplit := checkEach_eq_ok.1 h front s back he
  simp only [bind_eq_ok] at hsplit
  obtain ⟨_, hname, _, hnew, hschema⟩ := hsplit
  have hfront : (front.map fun s => s.withFunctions (functions s)).reverse.any
      (·.name == s.name) = front.reverse.any (·.name == s.name) := by
    rw [← List.map_reverse, List.any_map]
    rfl
  have hone : checkSchema (db.withFunctions functions) (s.withFunctions (functions s)) =
      checkSignatures s.name (functions s) :=
    checkSchema_withFunctions hschema (functions s)
  simp only [Schema.withFunctions_name, hname, hfront, hnew, hone]
  rfl

/-! ### One more function -/

/-- A definition whose schema of a name is given other functions. -/
def withFunctionsIn (db : Database) (schema : String) (functions : List Routine) : Database :=
  db.withFunctions fun s => if s.name = schema then functions else s.functions

/-- **A valid definition with one more function** is refused exactly if the schema has its signature
already, as an ambiguous overload. -/
theorem validate_withFunctionsIn {u : Unit} (h : db.validate = .ok u) {s : Schema}
    (hs : s ∈ db.schemas) {front back : List Routine} (hfunctions : s.functions = front ++ back)
    (g : Routine) : (db.withFunctionsIn s.name (front ++ g :: back)).validate =
      if g.signature ∈ s.functions.map (·.signature) then
        .error (.definition (s.name ++ "." ++ g.signature) .ambiguousOverload)
      else .ok () := by
  have hdb := coherent_of_validate h
  have hnodup : ∀ t ∈ db.schemas, (t.functions.map (·.signature)).Nodup := fun t ht =>
    (hdb.schemas t ht).signatures
  have hother : ∀ t ∈ db.schemas, t ≠ s → checkSignatures t.name
      (if t.name = s.name then front ++ g :: back else t.functions) = .ok () := by
    intro t ht hne
    have hname : t.name ≠ s.name := fun he =>
      hne (List.inj_on_of_nodup_map hdb.schemaNames ht hs he)
    rw [if_neg hname, checkSignatures_eq_ok]
    exact hnodup t ht
  rw [withFunctionsIn, validate_withFunctions h]
  split
  next hg =>
    obtain ⟨before, after, hsplit⟩ := List.append_of_mem hs
    refine checkAll_eq_error.2 ⟨before, s, after, hsplit, fun t ht => ?_, ?_⟩
    · have hschemas : (before ++ s :: after).Nodup :=
        hsplit ▸ List.Nodup.of_map _ hdb.schemaNames
      have hnew : s ∉ before ++ after := (List.nodup_cons.1 (List.nodup_middle.1 hschemas)).1
      refine hother t (by rw [hsplit]; simp [ht]) fun he => hnew ?_
      exact List.mem_append_left _ (he ▸ ht)
    · rw [if_pos rfl]
      rw [hfunctions] at hg
      exact checkSignatures_insert (hfunctions ▸ hnodup s hs) hg
  next hg =>
    refine checkAll_eq_ok.2 fun t ht => ?_
    by_cases he : t = s
    · have hown := hnodup s hs
      rw [hfunctions, List.map_append] at hg hown
      rw [he, if_pos rfl, checkSignatures_eq_ok, List.map_append, List.map_cons]
      exact List.nodup_middle.2 (List.nodup_cons.2 ⟨hg, hown⟩)
    · exact hother t ht he

end Database

end SchemaPlan
