import Mathlib.Data.List.Nodup
import SchemaPlan.Model.Read
import SchemaPlan.Proofs.Checks

/-!
# Definitions in parts

`Database.merge` goes through a part schema by schema and adds each to what there is of it already.
What has come together at the end can be said at once (`Schema.gatherAll`): each schema that occurs
anywhere, in the order in which they occur first, with all that its occurrences declare, one behind the
other.  It comes to that unless two occurrences declare different owners or different descriptions
(`Agreed`), whichever parts they are in; then the error names two that differ
(`Database.isConflict_of_assemble`).

The gathered schemas may be gathered again with others, and nothing is different for it
(`Schema.gatherAll_append_gatherAll`).  So it does not matter which parts are put together first
(`parts_merged`).
-/

namespace SchemaPlan

/-! ### First occurrences -/

section First

variable {α : Type*} [BEq α] [LawfulBEq α] {l : List α}

theorem eraseDups_concat_of_mem {x : α} (h : x ∈ l) : (l ++ [x]).eraseDups = l.eraseDups := by
  rw [List.eraseDups_append, List.removeAll]
  simp [h]

theorem eraseDups_concat_of_not_mem {x : α} (h : x ∉ l) :
    (l ++ [x]).eraseDups = l.eraseDups ++ [x] := by
  rw [List.eraseDups_append, List.removeAll]
  simp [h, List.eraseDups_cons]

theorem nodup_eraseDups : l.eraseDups.Nodup := by
  induction l using List.reverseRecOn with
  | nil => exact List.nodup_nil
  | append_singleton l x ih =>
    by_cases h : x ∈ l
    · rwa [eraseDups_concat_of_mem h]
    · rw [eraseDups_concat_of_not_mem h, ← List.concat_eq_append]
      exact ih.concat (mt List.mem_eraseDups.1 h)

/-- What is left stands in the order in which it occurs first. -/
theorem pairwise_eraseDups : l.eraseDups.Pairwise fun x y => l.idxOf x < l.idxOf y := by
  induction l using List.reverseRecOn with
  | nil => exact .nil
  | append_singleton l z ih =>
    have hbefore : l.eraseDups.Pairwise fun x y => (l ++ [z]).idxOf x < (l ++ [z]).idxOf y := by
      refine ih.imp_of_mem fun hx hy hlt => ?_
      rwa [List.idxOf_append_of_mem (List.mem_eraseDups.1 hx),
        List.idxOf_append_of_mem (List.mem_eraseDups.1 hy)]
    by_cases h : z ∈ l
    · rwa [eraseDups_concat_of_mem h]
    · rw [eraseDups_concat_of_not_mem h]
      refine List.pairwise_append.2 ⟨hbefore, List.pairwise_singleton _ _, fun x hx y hy => ?_⟩
      obtain rfl := List.mem_singleton.1 hy
      rw [List.idxOf_append_of_mem (List.mem_eraseDups.1 hx), List.idxOf_append_of_notMem h]
      exact Nat.lt_add_right _ (List.idxOf_lt_length_of_mem (List.mem_eraseDups.1 hx))

theorem eraseDups_append_eraseDups (k : List α) :
    (k ++ l.eraseDups).eraseDups = (k ++ l).eraseDups := by
  induction l using List.reverseRecOn with
  | nil => rfl
  | append_singleton l x ih =>
    by_cases h : x ∈ l
    · rw [eraseDups_concat_of_mem h, ih, ← List.append_assoc,
        eraseDups_concat_of_mem (List.mem_append_right k h)]
    · rw [eraseDups_concat_of_not_mem h, ← List.append_assoc, ← List.append_assoc]
      by_cases hk : x ∈ k
      · rw [eraseDups_concat_of_mem (List.mem_append_left _ hk),
          eraseDups_concat_of_mem (List.mem_append_left _ hk), ih]
      · rw [eraseDups_concat_of_not_mem (by simp [h, hk]),
          eraseDups_concat_of_not_mem (by simp [h, hk]), ih]

end First

/-! ### What occurrences declare together -/

/-- An occurrence of a schema declares a value. -/
def Declares (read : Schema → Option String) (all : List Schema) (name value : String) : Prop :=
  ∃ s ∈ all, s.name = name ∧ read s = some value

/-- All values that are declared for one schema are the same. -/
def Agreed (read : Schema → Option String) (all : List Schema) : Prop :=
  ∀ name x y, Declares read all name x → Declares read all name y → x = y

namespace Schema

/-- The occurrences of a schema. -/
def occurrences (all : List Schema) (name : String) : List Schema :=
  all.filter (·.name == name)

/-- A schema with all that these declare. -/
def gather (name : String) (parts : List Schema) : Schema where
  name
  owner := parts.findSome? (·.owner)
  description := parts.findSome? (·.description)
  grants := parts.flatMap (·.grants)
  tables := parts.flatMap (·.tables)
  sequences := parts.flatMap (·.sequences)
  types := parts.flatMap (·.types)
  views := parts.flatMap (·.views)
  functions := parts.flatMap (·.functions)
  triggers := parts.flatMap (·.triggers)

/-- The schemas that occur, each with all that its occurrences declare. -/
def gatherAll (all : List Schema) : List Schema :=
  (all.map (·.name)).eraseDups.map fun name => gather name (occurrences all name)

variable {all more : List Schema} {name : String}

theorem occurrences_append :
    occurrences (all ++ more) name = occurrences all name ++ occurrences more name :=
  List.filter_append ..

theorem occurrences_eq_nil (h : name ∉ all.map (·.name)) : occurrences all name = [] := by
  refine List.filter_eq_nil_iff.2 fun s hs he => h ?_
  exact List.mem_map.2 ⟨s, hs, eq_of_beq he⟩

theorem occurrences_singleton (s : Schema) : occurrences [s] s.name = [s] := by
  simp [occurrences]

theorem occurrences_singleton_of_ne {s : Schema} (h : name ≠ s.name) : occurrences [s] name = [] := by
  simp [occurrences, h.symm]

theorem gather_singleton (s : Schema) : gather s.name [s] = s := by
  simp only [gather, List.findSome?_singleton, List.flatMap_singleton]

/-- What has been gathered may be gathered again. -/
theorem gather_append_gather (parts others : List Schema) :
    gather name (parts ++ [gather name others]) = gather name (parts ++ others) := by
  simp only [gather, List.findSome?_append, List.findSome?_singleton, List.flatMap_append,
    List.flatMap_singleton]

theorem map_name_gatherAll : (gatherAll all).map (·.name) = (all.map (·.name)).eraseDups := by
  rw [gatherAll, List.map_map]
  exact List.map_id _

theorem mem_map_name_gatherAll :
    name ∈ (gatherAll all).map (·.name) ↔ name ∈ all.map (·.name) := by
  rw [map_name_gatherAll, List.mem_eraseDups]

/-- A gathered schema occurs once. -/
theorem occurrences_gatherAll (h : name ∈ all.map (·.name)) :
    occurrences (gatherAll all) name = [gather name (occurrences all name)] := by
  have hname : name ∈ (all.map (·.name)).eraseDups := List.mem_eraseDups.2 h
  have hfilter : (all.map (·.name)).eraseDups.filter (· == name) = [name] := by
    rw [List.filter_beq, List.count_eq_one_of_mem nodup_eraseDups hname, List.replicate_one]
  rw [occurrences, gatherAll, List.filter_map]
  exact congrArg (List.map _) hfilter

/-- **What has been gathered may be gathered again** with others. -/
theorem gatherAll_append_gatherAll :
    gatherAll (all ++ gatherAll more) = gatherAll (all ++ more) := by
  have hnames : ((all ++ gatherAll more).map (·.name)).eraseDups =
      ((all ++ more).map (·.name)).eraseDups := by
    rw [List.map_append, map_name_gatherAll, eraseDups_append_eraseDups, ← List.map_append]
  show ((all ++ gatherAll more).map (·.name)).eraseDups.map _ = gatherAll (all ++ more)
  rw [hnames]
  refine List.map_congr_left fun name _ => ?_
  rw [occurrences_append, occurrences_append]
  by_cases h : name ∈ more.map (·.name)
  · rw [occurrences_gatherAll h, gather_append_gather]
  · rw [occurrences_eq_nil h, occurrences_eq_nil (mt mem_map_name_gatherAll.1 h)]

/-- One more schema under a new name comes last. -/
theorem gatherAll_concat_of_not_mem {s : Schema} (h : s.name ∉ all.map (·.name)) :
    gatherAll (all ++ [s]) = gatherAll all ++ [s] := by
  have hall : (all.map (·.name)).eraseDups.map
      (fun name => gather name (occurrences (all ++ [s]) name)) = gatherAll all := by
    refine List.map_congr_left fun name hname => ?_
    have hne : name ≠ s.name := by
      rintro rfl
      exact h (List.mem_eraseDups.1 hname)
    rw [occurrences_append, occurrences_singleton_of_ne hne, List.append_nil]
  rw [gatherAll, List.map_append, List.map_singleton, eraseDups_concat_of_not_mem h, List.map_append,
    hall, List.map_singleton, occurrences_append, occurrences_eq_nil h, List.nil_append,
    occurrences_singleton, gather_singleton]

/-- One more schema under a name that has occurred joins that one. -/
theorem gatherAll_concat_of_mem {s : Schema} (h : s.name ∈ all.map (·.name)) :
    gatherAll (all ++ [s]) = (all.map (·.name)).eraseDups.map fun name =>
      if name = s.name then gather s.name (occurrences all s.name ++ [s])
      else gather name (occurrences all name) := by
  rw [gatherAll, List.map_append, List.map_singleton, eraseDups_concat_of_mem h]
  refine List.map_congr_left fun name _ => ?_
  rw [occurrences_append]
  split
  case isTrue he => rw [he, occurrences_singleton]
  case isFalse hne => rw [occurrences_singleton_of_ne hne, List.append_nil]

end Schema

/-! ### Declarations that agree -/

section Agreement

variable {read : Schema → Option String} {all more : List Schema} {name value : String}

theorem declares_append : Declares read (all ++ more) name value ↔
    Declares read all name value ∨ Declares read more name value := by
  simp only [Declares, List.mem_append, or_and_right, exists_or]

theorem declares_singleton {s : Schema} :
    Declares read [s] name value ↔ s.name = name ∧ read s = some value := by
  simp [Declares]

theorem Declares.mono (h : Declares read more name value) (hmore : ∀ s ∈ more, s ∈ all) :
    Declares read all name value :=
  let ⟨s, hs, hvalue⟩ := h
  ⟨s, hmore s hs, hvalue⟩

theorem Agreed.mono (h : Agreed read all) (hmore : ∀ s ∈ more, s ∈ all) : Agreed read more :=
  fun name x y hx hy => h name x y (hx.mono hmore) (hy.mono hmore)

/-- What is declared first is declared. -/
theorem declares_of_findSome? (h : (Schema.occurrences all name).findSome? read = some value) :
    Declares read all name value := by
  obtain ⟨s, hs, hvalue⟩ := List.exists_of_findSome?_eq_some h
  obtain ⟨hs, hname⟩ := List.mem_filter.1 hs
  exact ⟨s, hs, eq_of_beq hname, hvalue⟩

/-- Where declarations agree, what is declared is what is declared first. -/
theorem Agreed.findSome?_eq_some_iff (h : Agreed read all) :
    (Schema.occurrences all name).findSome? read = some value ↔ Declares read all name value := by
  refine ⟨declares_of_findSome?, fun hd => ?_⟩
  obtain ⟨s, hs, hname, hvalue⟩ := id hd
  have hsome : ((Schema.occurrences all name).findSome? read).isSome :=
    List.findSome?_isSome_iff.2 ⟨s, List.mem_filter.2 ⟨hs, beq_iff_eq.2 hname⟩, by rw [hvalue]; rfl⟩
  obtain ⟨first, hfirst⟩ := Option.isSome_iff_exists.1 hsome
  rw [hfirst, h name first value (declares_of_findSome? hfirst) hd]

/-- One more schema agrees with others if what it declares is what they declare first. -/
theorem Agreed.concat_iff (h : Agreed read all) {s : Schema} : Agreed read (all ++ [s]) ↔
    ∀ x y, (Schema.occurrences all s.name).findSome? read = some x → read s = some y → x = y := by
  constructor
  · intro hall x y hx hy
    exact hall s.name x y (declares_append.2 (.inl (declares_of_findSome? hx)))
      (declares_append.2 (.inr (declares_singleton.2 ⟨rfl, hy⟩)))
  · intro hs name x y hx hy
    simp only [declares_append, declares_singleton] at hx hy
    rcases hx with hx | ⟨rfl, hx⟩ <;> rcases hy with hy | ⟨hname, hy⟩
    · exact h name x y hx hy
    · subst hname
      exact hs x y (h.findSome?_eq_some_iff.2 hx) hy
    · exact (hs y x (h.findSome?_eq_some_iff.2 hy) hx).symm
    · exact Option.some.inj (hx.symm.trans hy)

end Agreement

theorem Agreed.gatherAll_iff {read : Schema → Option String} (all : List Schema)
    {more : List Schema} (hread : ∀ name parts, read (Schema.gather name parts) = parts.findSome? read)
    (hmore : Agreed read more) :
    Agreed read (all ++ Schema.gatherAll more) ↔ Agreed read (all ++ more) := by
  have hsame : ∀ name value, Declares read (Schema.gatherAll more) name value ↔
      Declares read more name value := by
    intro name value
    constructor
    · rintro ⟨_, hs, rfl, hvalue⟩
      obtain ⟨name, -, rfl⟩ := List.mem_map.1 hs
      rw [hread] at hvalue
      exact declares_of_findSome? hvalue
    · intro hd
      obtain ⟨s, hs, rfl, -⟩ := id hd
      have hname : s.name ∈ (more.map (·.name)).eraseDups :=
        List.mem_eraseDups.2 (List.mem_map_of_mem hs)
      refine ⟨_, List.mem_map_of_mem hname, rfl, ?_⟩
      rw [hread]
      exact hmore.findSome?_eq_some_iff.2 hd
  simp only [Agreed, declares_append, hsame]

/-! ### One part after the other -/

theorem mergeAttribute_eq_ok_iff {schema part : String} {a b v : Option String} :
    mergeAttribute schema part a b = .ok v ↔
      (∀ x y, a = some x → b = some y → x = y) ∧ v = a.or b := by
  cases a with
  | none => cases b <;> simp [mergeAttribute, eq_comm]
  | some x =>
    cases b with
    | none => simp [mergeAttribute, eq_comm]
    | some y =>
      by_cases h : x = y
      · simp [mergeAttribute, h, eq_comm]
      · simp [mergeAttribute, h]

/-- What is declared in several places is joined if owners and descriptions agree. -/
theorem Schema.gather_merge_eq_ok_iff {name : String} {parts : List Schema} {s m : Schema} :
    (gather name parts).merge s = .ok m ↔
      (∀ x y, parts.findSome? (·.owner) = some x → s.owner = some y → x = y) ∧
      (∀ x y, parts.findSome? (·.description) = some x → s.description = some y → x = y) ∧
      m = gather name (parts ++ [s]) := by
  simp only [Schema.merge, bind_eq_ok, pure_eq_ok, mergeAttribute_eq_ok_iff]
  constructor
  · rintro ⟨_, ⟨howner, rfl⟩, _, ⟨hdescription, rfl⟩, rfl⟩
    refine ⟨howner, hdescription, ?_⟩
    simp only [gather, List.findSome?_append, List.findSome?_singleton, List.flatMap_append,
      List.flatMap_singleton]
  · rintro ⟨howner, hdescription, rfl⟩
    refine ⟨_, ⟨howner, rfl⟩, _, ⟨hdescription, rfl⟩, ?_⟩
    simp only [gather, List.findSome?_append, List.findSome?_singleton, List.flatMap_append,
      List.flatMap_singleton]

section Named

variable {f : String → Schema} (hf : ∀ name, (f name).name = name) {names : List String} {s : Schema}

include hf

theorem mergeSchema_map_of_not_mem (h : s.name ∉ names) :
    mergeSchema (names.map f) s = .ok (names.map f ++ [s]) := by
  induction names with
  | nil => rfl
  | cons name names ih =>
    obtain ⟨hne, hrest⟩ := not_or.1 (mt List.mem_cons.2 h)
    have hname : ((f name).name == s.name) = false := by
      rw [hf]
      exact beq_false_of_ne (Ne.symm hne)
    rw [List.map_cons, mergeSchema, hname, ih hrest]
    rfl

theorem mergeSchema_map_of_mem (hnodup : names.Nodup) (h : s.name ∈ names) {l : List Schema} :
    mergeSchema (names.map f) s = .ok l ↔ ∃ m, (f s.name).merge s = .ok m ∧
      l = names.map fun name => if name = s.name then m else f name := by
  induction names generalizing l with
  | nil => exact absurd h List.not_mem_nil
  | cons name names ih =>
    obtain ⟨hname, hnodup⟩ := List.nodup_cons.1 hnodup
    rw [List.map_cons, mergeSchema, hf]
    by_cases he : name = s.name
    · subst he
      have hothers : ∀ m, names.map (fun name => if name = s.name then m else f name) =
          names.map f := by
        refine fun m => List.map_congr_left fun name hn => if_neg ?_
        rintro rfl
        exact hname hn
      rw [if_pos (beq_self_eq_true _)]
      simp only [bind_eq_ok, pure_eq_ok, List.map_cons, if_true, hothers, eq_comm (a := l)]
    · rw [if_neg (mt eq_of_beq he)]
      simp only [bind_eq_ok, pure_eq_ok, ih hnodup ((List.mem_cons.1 h).resolve_left (Ne.symm he)),
        List.map_cons, if_neg he]
      constructor
      · rintro ⟨_, ⟨m, hm, rfl⟩, rfl⟩
        exact ⟨m, hm, rfl⟩
      · rintro ⟨m, hm, rfl⟩
        exact ⟨_, ⟨m, hm, rfl⟩, rfl⟩

end Named

section Accumulation

variable {α β ε : Type} {f : β → α → Except ε β} {good : List α → Prop} {result : List α → β}
  {more : List α}

/-- A computation that takes these elements, one after the other, comes from a known result of the
elements so far to that of one more, as long as they are good. -/
def Accumulates (f : β → α → Except ε β) (good : List α → Prop) (result : List α → β)
    (more : List α) : Prop :=
  ∀ all x b, good all → x ∈ more →
    (f (result all) x = .ok b ↔ good (all ++ [x]) ∧ b = result (all ++ [x]))

theorem Accumulates.tail {x : α} (h : Accumulates f good result (x :: more)) :
    Accumulates f good result more :=
  fun all y b hall hy => h all y b hall (List.mem_cons_of_mem _ hy)

/-- **It comes to the result of all elements** if they are good. -/
theorem Accumulates.foldlM_eq_ok_iff (h : Accumulates f good result more)
    (hgood : ∀ all more, good (all ++ more) → good all) : ∀ all, good all → ∀ {b : β},
      more.foldlM f (result all) = .ok b ↔ good (all ++ more) ∧ b = result (all ++ more) := by
  induction more with
  | nil =>
    intro all hall b
    rw [List.foldlM_nil, pure_eq_ok, List.append_nil, and_iff_right hall, eq_comm]
  | cons x more ih =>
    intro all hall b
    have hcons : all ++ x :: more = all ++ [x] ++ more := List.append_cons ..
    simp only [List.foldlM_cons, bind_eq_ok, h all x _ hall List.mem_cons_self, hcons]
    constructor
    · rintro ⟨_, ⟨hx, rfl⟩, hrest⟩
      exact (ih h.tail (all ++ [x]) hx).1 hrest
    · intro hrest
      have hx : good (all ++ [x]) := hgood _ _ hrest.1
      exact ⟨_, ⟨hx, rfl⟩, (ih h.tail (all ++ [x]) hx).2 hrest⟩

/-- **If it fails, then at an element** behind good ones. -/
theorem Accumulates.exists_of_eq_error (h : Accumulates f good result more) {e : ε} :
    ∀ all, good all → more.foldlM f (result all) = .error e →
      ∃ before x after, more = before ++ x :: after ∧ good (all ++ before) ∧
        f (result (all ++ before)) x = .error e := by
  induction more with
  | nil => exact fun _ _ h => nomatch h
  | cons x more ih =>
    intro all hall he
    rw [List.foldlM_cons] at he
    rcases bind_eq_error.1 he with hx | ⟨b, hb, hrest⟩
    · exact ⟨[], x, more, rfl, by rwa [List.append_nil], by rwa [List.append_nil]⟩
    · obtain ⟨hgood, rfl⟩ := (h all x b hall List.mem_cons_self).1 hb
      obtain ⟨before, y, after, rfl, hbefore, hy⟩ := ih h.tail (all ++ [x]) hgood hrest
      rw [← List.append_cons] at hbefore hy
      exact ⟨x :: before, y, after, rfl, hbefore, hy⟩

end Accumulation

/-- Owners and descriptions agree. -/
structure Coincide (all : List Schema) : Prop where
  owners : Agreed (·.owner) all
  descriptions : Agreed (·.description) all

theorem coincide_nil : Coincide [] := by
  constructor <;> rintro name x y ⟨_, hs, -⟩ <;> exact absurd hs List.not_mem_nil

/-- **One more schema**: what has been gathered stays gathered, if the schema agrees with it. -/
theorem mergeSchema_gatherAll {all : List Schema} (h : Coincide all) {s : Schema} {l : List Schema} :
    mergeSchema (Schema.gatherAll all) s = .ok l ↔
      Coincide (all ++ [s]) ∧ l = Schema.gatherAll (all ++ [s]) := by
  have hnamed : ∀ name, (Schema.gather name (Schema.occurrences all name)).name = name :=
    fun _ => rfl
  have hcoincide : Coincide (all ++ [s]) ↔
      (∀ x y, (Schema.occurrences all s.name).findSome? (·.owner) = some x → s.owner = some y →
        x = y) ∧
      (∀ x y, (Schema.occurrences all s.name).findSome? (·.description) = some x →
        s.description = some y → x = y) := by
    rw [← h.owners.concat_iff, ← h.descriptions.concat_iff]
    exact ⟨fun ⟨a, b⟩ => ⟨a, b⟩, fun ⟨a, b⟩ => ⟨a, b⟩⟩
  by_cases hs : s.name ∈ all.map (·.name)
  · rw [Schema.gatherAll, mergeSchema_map_of_mem hnamed nodup_eraseDups (List.mem_eraseDups.2 hs)]
    simp only [Schema.gather_merge_eq_ok_iff, hcoincide, Schema.gatherAll_concat_of_mem hs]
    constructor
    · rintro ⟨_, ⟨howner, hdescription, rfl⟩, rfl⟩
      exact ⟨⟨howner, hdescription⟩, rfl⟩
    · rintro ⟨⟨howner, hdescription⟩, rfl⟩
      exact ⟨_, ⟨howner, hdescription, rfl⟩, rfl⟩
  · rw [Schema.gatherAll, mergeSchema_map_of_not_mem hnamed (mt List.mem_eraseDups.1 hs),
      ← Schema.gatherAll, Schema.gatherAll_concat_of_not_mem hs, hcoincide,
      Schema.occurrences_eq_nil hs, Except.ok.injEq, eq_comm]
    exact (and_iff_right ⟨nofun, nofun⟩).symm

theorem Coincide.mono {all more : List Schema} (h : Coincide all) (hmore : ∀ s ∈ more, s ∈ all) :
    Coincide more :=
  ⟨h.owners.mono hmore, h.descriptions.mono hmore⟩

theorem Coincide.gatherAll_iff {all more : List Schema} (h : Coincide more) :
    Coincide (all ++ Schema.gatherAll more) ↔ Coincide (all ++ more) := by
  have howners := Agreed.gatherAll_iff all (fun _ _ => rfl) h.owners
  have hdescriptions := Agreed.gatherAll_iff all (fun _ _ => rfl) h.descriptions
  exact ⟨fun hall => ⟨howners.1 hall.owners, hdescriptions.1 hall.descriptions⟩,
    fun hall => ⟨howners.2 hall.owners, hdescriptions.2 hall.descriptions⟩⟩

theorem Coincide.of_append (all more : List Schema) (h : Coincide (all ++ more)) : Coincide all :=
  h.mono fun _ => List.mem_append_left _

/-- **A list of schemas**, one after the other. -/
theorem accumulates_mergeSchema (more : List Schema) :
    Accumulates mergeSchema Coincide Schema.gatherAll more :=
  fun _ _ _ h _ => mergeSchema_gatherAll h

namespace Database

/-- The schemas of all parts. -/
def allSchemas (parts : List Database) : List Schema :=
  parts.flatMap (·.schemas)

/-- The parts of a definition, one after the other. -/
def assemble (parts : List Database) : Except SchemaError Database :=
  parts.foldlM Database.merge {}

/-- All that the parts of a definition declare. -/
def gathered (parts : List Database) : Database where
  schemas := Schema.gatherAll (allSchemas parts)
  sql := parts.flatMap (·.sql)

variable {parts more : List Database}

theorem allSchemas_append : allSchemas (parts ++ more) = allSchemas parts ++ allSchemas more :=
  List.flatMap_append

theorem allSchemas_cons (part : Database) :
    allSchemas (part :: parts) = part.schemas ++ allSchemas parts :=
  List.flatMap_cons

theorem allSchemas_concat (part : Database) :
    allSchemas (parts ++ [part]) = allSchemas parts ++ part.schemas := by
  rw [allSchemas_append]
  exact congrArg _ (List.flatMap_singleton _ _)

/-- **One more part**, whatever schemas it repeats. -/
theorem merge_gathered (h : Coincide (allSchemas parts)) {part db : Database} :
    (gathered parts).merge part = .ok db ↔
      Coincide (allSchemas (parts ++ [part])) ∧ db = gathered (parts ++ [part]) := by
  simp only [Database.merge, bind_eq_ok, pure_eq_ok, gathered, allSchemas_concat,
    (accumulates_mergeSchema _).foldlM_eq_ok_iff Coincide.of_append _ h, List.flatMap_append,
    List.flatMap_singleton]
  constructor
  · rintro ⟨_, ⟨hall, rfl⟩, rfl⟩
    exact ⟨hall, rfl⟩
  · rintro ⟨hall, rfl⟩
    exact ⟨_, ⟨hall, rfl⟩, rfl⟩

/-- Parts that have been put together count as those parts. -/
theorem merge_gathered_gathered (h : Coincide (allSchemas parts))
    (hmore : Coincide (allSchemas more)) {db : Database} :
    (gathered parts).merge (gathered more) = .ok db ↔
      Coincide (allSchemas (parts ++ more)) ∧ db = gathered (parts ++ more) := by
  have hschemas : allSchemas (parts ++ [gathered more]) =
      allSchemas parts ++ Schema.gatherAll (allSchemas more) := allSchemas_concat _
  have hgathered : gathered (parts ++ [gathered more]) = gathered (parts ++ more) := by
    rw [gathered, hschemas, Schema.gatherAll_append_gatherAll, ← allSchemas_append,
      List.flatMap_append, List.flatMap_singleton]
    exact congrArg _ List.flatMap_append.symm
  rw [merge_gathered h, hgathered, hschemas, hmore.gatherAll_iff, allSchemas_append]

theorem coincide_of_append (parts more : List Database)
    (h : Coincide (allSchemas (parts ++ more))) : Coincide (allSchemas parts) := by
  rw [allSchemas_append] at h
  exact Coincide.of_append _ _ h

theorem accumulates_merge (parts : List Database) :
    Accumulates Database.merge (fun parts => Coincide (allSchemas parts)) gathered parts :=
  fun _ _ _ h _ => merge_gathered h

/-- **All parts.** -/
theorem assemble_eq_ok_iff {db : Database} : assemble parts = .ok db ↔
    Coincide (allSchemas parts) ∧ db = gathered parts :=
  (accumulates_merge parts).foldlM_eq_ok_iff coincide_of_append [] coincide_nil

section Groups

variable {groups : List (List Database)}

theorem mapM_assemble_eq_ok_iff {merged : List Database} : groups.mapM assemble = .ok merged ↔
    (∀ group ∈ groups, Coincide (allSchemas group)) ∧ merged = groups.map gathered := by
  have hcomm (group : List Database) (db : Database) : db = gathered group ↔ gathered group = db :=
    eq_comm
  simp only [mapM_eq_ok, assemble_eq_ok_iff, List.forall₂_and_left, hcomm]
  rw [eq_comm (a := merged), ← List.forall₂_eq_eq_eq, List.forall₂_map_left_iff]

theorem assemble_map_gathered (h : ∀ group ∈ groups, Coincide (allSchemas group)) {db : Database} :
    assemble (groups.map gathered) = .ok db ↔
      Coincide (allSchemas groups.flatten) ∧ db = gathered groups.flatten := by
  have hgroups : Accumulates (fun db group => Database.merge db (gathered group))
      (fun groups => Coincide (allSchemas groups.flatten)) (fun groups => gathered groups.flatten)
      groups := by
    intro all group db hall hgroup
    show _ ↔ Coincide (allSchemas (all ++ [group]).flatten) ∧ db = gathered (all ++ [group]).flatten
    rw [merge_gathered_gathered hall (h group hgroup), List.flatten_append, List.flatten_singleton]
  rw [assemble, List.foldlM_map]
  refine hgroups.foldlM_eq_ok_iff (fun all more hall => ?_) [] coincide_nil
  rw [List.flatten_append] at hall
  exact coincide_of_append _ _ hall

/-- **Parts in groups** come to what they come to one by one. -/
theorem assemble_groups {db : Database} :
    groups.mapM assemble >>= assemble = .ok db ↔ assemble groups.flatten = .ok db := by
  simp only [bind_eq_ok, mapM_assemble_eq_ok_iff]
  constructor
  · rintro ⟨_, ⟨hgroups, rfl⟩, hdb⟩
    exact assemble_eq_ok_iff.2 ((assemble_map_gathered hgroups).1 hdb)
  · intro hdb
    have hall := assemble_eq_ok_iff.1 hdb
    have hgroups : ∀ group ∈ groups, Coincide (allSchemas group) := by
      intro group hgroup
      refine hall.1.mono fun s hs => ?_
      obtain ⟨part, hpart, hs⟩ := List.mem_flatMap.1 hs
      exact List.mem_flatMap.2 ⟨part, List.mem_flatten.2 ⟨group, hgroup, hpart⟩, hs⟩
    exact ⟨_, ⟨hgroups, rfl⟩, (assemble_map_gathered hgroups).2 hall⟩

end Groups

end Database

/-! ### Parts that do not agree -/

/-- An error says that two values are declared for an owner or a description. -/
def IsConflict (all : List Schema) (e : SchemaError) : Prop :=
  ∃ name x y, x ≠ y ∧
    (Declares (·.owner) all name x ∧ Declares (·.owner) all name y ∧
        e = .definition name (.conflicting "owner" x y) ∨
      Declares (·.description) all name x ∧ Declares (·.description) all name y ∧
        e = .definition name (.conflicting "description" x y))

theorem mergeAttribute_eq_error {schema part : String} {a b : Option String} {e : SchemaError}
    (h : mergeAttribute schema part a b = .error e) :
    ∃ x y, x ≠ y ∧ a = some x ∧ b = some y ∧ e = .definition schema (.conflicting part x y) := by
  cases a with
  | none => cases b <;> cases h
  | some x =>
    cases b with
    | none => cases h
    | some y =>
      rw [mergeAttribute] at h
      split at h
      case isTrue => cases h
      case isFalse hne => exact ⟨x, y, mt beq_iff_eq.2 hne, rfl, rfl, (Except.error.inj h).symm⟩

theorem mergeSchema_eq_error {s : Schema} {e : SchemaError} :
    ∀ {schemas : List Schema}, mergeSchema schemas s = .error e →
      ∃ t ∈ schemas, t.name = s.name ∧ t.merge s = .error e := by
  intro schemas
  induction schemas with
  | nil => exact nofun
  | cons t rest ih =>
    intro h
    rw [mergeSchema] at h
    split at h
    case isTrue hname =>
      rcases bind_eq_error.1 h with h | ⟨_, -, h⟩
      · exact ⟨t, List.mem_cons_self, eq_of_beq hname, h⟩
      · cases h
    case isFalse =>
      rcases bind_eq_error.1 h with h | ⟨_, -, h⟩
      · obtain ⟨t, ht, hmerge⟩ := ih h
        exact ⟨t, List.mem_cons_of_mem _ ht, hmerge⟩
      · cases h

/-- One more schema is refused for what it declares otherwise. -/
theorem isConflict_of_mergeSchema {all : List Schema} {s : Schema} {e : SchemaError}
    (h : mergeSchema (Schema.gatherAll all) s = .error e) : IsConflict (all ++ [s]) e := by
  obtain ⟨t, ht, hname, hmerge⟩ := mergeSchema_eq_error h
  obtain ⟨name, -, rfl⟩ := List.mem_map.1 ht
  have hboth (read : Schema → Option String) {x y : String}
      (hx : (Schema.occurrences all name).findSome? read = some x) (hy : read s = some y) :
      Declares read (all ++ [s]) name x ∧ Declares read (all ++ [s]) name y :=
    ⟨declares_append.2 (.inl (declares_of_findSome? hx)),
      declares_append.2 (.inr (declares_singleton.2 ⟨hname.symm, hy⟩))⟩
  rcases bind_eq_error.1 hmerge with hmerge | ⟨_, -, hmerge⟩
  · obtain ⟨x, y, hne, hx, hy, he⟩ := mergeAttribute_eq_error hmerge
    obtain ⟨hx, hy⟩ := hboth (·.owner) hx hy
    exact ⟨name, x, y, hne, .inl ⟨hx, hy, he⟩⟩
  · rcases bind_eq_error.1 hmerge with hmerge | ⟨_, -, hmerge⟩
    · obtain ⟨x, y, hne, hx, hy, he⟩ := mergeAttribute_eq_error hmerge
      obtain ⟨hx, hy⟩ := hboth (·.description) hx hy
      exact ⟨name, x, y, hne, .inr ⟨hx, hy, he⟩⟩
    · cases hmerge

theorem IsConflict.mono {all more : List Schema} {e : SchemaError} (h : IsConflict all e)
    (hall : ∀ s ∈ all, s ∈ more) : IsConflict more e := by
  obtain ⟨name, x, y, hne, ⟨hx, hy, he⟩ | ⟨hx, hy, he⟩⟩ := h
  · exact ⟨name, x, y, hne, .inl ⟨hx.mono hall, hy.mono hall, he⟩⟩
  · exact ⟨name, x, y, hne, .inr ⟨hx.mono hall, hy.mono hall, he⟩⟩

/-- **Parts are refused for what they declare otherwise**, and for nothing else. -/
theorem Database.isConflict_of_assemble {parts : List Database} {e : SchemaError}
    (h : assemble parts = .error e) : IsConflict (allSchemas parts) e := by
  obtain ⟨before, part, after, rfl, hbefore, hpart⟩ :=
    (accumulates_merge parts).exists_of_eq_error [] coincide_nil h
  rw [List.nil_append] at hbefore hpart
  rcases bind_eq_error.1 hpart with hschemas | ⟨_, -, h⟩
  · obtain ⟨others, s, rest, hsplit, -, hs⟩ :=
      (accumulates_mergeSchema part.schemas).exists_of_eq_error _ hbefore hschemas
    have hall : allSchemas (before ++ part :: after) =
        allSchemas before ++ others ++ [s] ++ (rest ++ allSchemas after) := by
      rw [allSchemas_append, allSchemas_cons, hsplit]
      simp only [List.append_assoc, List.cons_append, List.nil_append]
    rw [hall]
    exact (isConflict_of_mergeSchema hs).mono fun _ => List.mem_append_left _
  · cases h

/-- **It does not matter how a definition is split into parts.**  Parts can be put together exactly if
all owners that are declared for a schema, in whichever parts, are the same, and all descriptions.
They come to each schema once, in the order in which the schemas occur first, with all that is declared
for it in the order of the parts, and to all statements.  And if the parts are put together in groups
first, and then the groups, that comes to the same. -/
theorem parts_merged (parts : List Database) :
    let all := parts.flatMap (·.schemas)
    let names := all.map (·.name)
    (∀ db, Database.assemble parts = .ok db ↔
      (Agreed (·.owner) all ∧ Agreed (·.description) all) ∧
        db = ⟨names.eraseDups.map fun name => Schema.gather name (Schema.occurrences all name),
          parts.flatMap (·.sql)⟩) ∧
    (names.eraseDups.Pairwise fun a b => names.idxOf a < names.idxOf b) ∧
    (∀ name, name ∈ names.eraseDups ↔ name ∈ names) ∧
    ∀ (groups : List (List Database)) db,
      groups.mapM Database.assemble >>= Database.assemble = .ok db ↔
        Database.assemble groups.flatten = .ok db := by
  intro all names
  refine ⟨fun db => ?_, pairwise_eraseDups, fun _ => List.mem_eraseDups,
    fun _ _ => Database.assemble_groups⟩
  rw [Database.assemble_eq_ok_iff]
  exact and_congr_left fun _ => ⟨fun h => ⟨h.owners, h.descriptions⟩, fun h => ⟨h.1, h.2⟩⟩

/-- What is declared later of a schema joins what was declared earlier. -/
example : Database.assemble
    [⟨[{ name := "shop", owner := some "ann" }, { name := "yard" }], []⟩,
      ⟨[{ name := "yard", sequences := [{ name := "loads" }] },
        { name := "shop", owner := some "ann", description := some "goods" }], []⟩] =
    .ok ⟨[{ name := "shop", owner := some "ann", description := some "goods" },
      { name := "yard", sequences := [{ name := "loads" }] }], []⟩ := by
  decide +kernel

end SchemaPlan
