import SchemaPlan.Model.Lookup

/-!
# The order of tables

Work on tables is done in an order in which every table comes after the tables it refers to or
inherits from.  `natural` is the order of declaration and `dependencyOrder` is the order in use: of
the tables whose dependencies have all been placed, the one declared first is placed next.

Tables that depend on each other in a circle, and those that depend on them, are never free in this
sense.  They come last, and `demote` arranges them as well as may be: a table that depends on one
behind it goes to the end of the queue, but not more often than a bound allows.

A schema without tables takes part as an item of its own, so that work on schemas can follow the
order as well.
-/

namespace SchemaPlan

/-- What an order lists: a table, or a schema that has none. -/
structure OrderItem where
  schema : String
  table : Option String
deriving DecidableEq

namespace OrderItem

/-- The item of a table. -/
abbrev ofKey (key : TableKey) : OrderItem :=
  ⟨key.1, some key.2⟩

/-- How an item is shown. -/
def text (i : OrderItem) : String :=
  i.schema ++ "." ++ i.table.getD "<no tables>"

end OrderItem

/-! ### Dependencies -/

/-- Whether a key comes before another: by the schema first, then by the table. -/
def keyBefore (a b : TableKey) : Bool :=
  a.1 < b.1 || (a.1 == b.1 && a.2 < b.2)

/-- Sorted keys with one more, unless it is there. -/
def insertKey (key : TableKey) : List TableKey → List TableKey
  | [] => [key]
  | k :: ks =>
    if key == k then k :: ks
    else if keyBefore key k then key :: k :: ks
    else k :: insertKey key ks

namespace Database

/-- The tables that a table of a schema refers to, as often as it does so. -/
def mentionedTables (schema : String) (t : Table) : List TableKey :=
  (t.columns.filterMap fun c => c.foreignKey.map fun fk => (fk.schema.getD schema, fk.table)) ++
    (t.constraints.filterMap fun c => c.target?.map (·.resolve schema)) ++
    (t.inherits.map (·.resolve schema)).toList

/-- The tables that a table depends on, other than itself, sorted. -/
def dependencies (db : Database) (key : TableKey) : List TableKey :=
  match db.table? key.1 key.2 with
  | none => []
  | some (s, t) =>
    ((mentionedTables s.name t).filter (· != key)).foldl (fun ks k => insertKey k ks) []

/-- Whether one item depends on another. -/
def dependsOn (db : Database) (a b : OrderItem) : Bool :=
  match a.table, b.table with
  | some ta, some tb => (db.dependencies (a.schema, ta)).contains (b.schema, tb)
  | _, _ => false

/-! ### Orders -/

/-- The items of a schema. -/
def schemaItems (s : Schema) : List OrderItem :=
  if s.tables.isEmpty then [⟨s.name, none⟩]
  else s.tables.map fun t => ⟨s.name, some t.name⟩

/-- The order of declaration. -/
def naturalOrder (db : Database) : List OrderItem :=
  db.schemas.flatMap schemaItems

end Database

/-- The last place of an element in a list. -/
def lastPlace? {α : Type} [BEq α] (x : α) (xs : List α) : Option Nat :=
  (xs.reverse.findIdx? (· == x)).map (xs.length - 1 - ·)

/-! ### Settling what is free

A place is settled as soon as every place it depends on has been.  So each place counts how many of
those are left, settling a place lets the ones that depend on it count down, and those that arrive
at zero are ready; of the ready places the first is settled next. -/

/-- How far the settling of places has come. -/
structure Settling where
  /-- For each place, how many of those it depends on are not settled. -/
  waiting : List Nat
  /-- The places that wait for none and are not settled, in ascending order. -/
  ready : List Nat
  /-- The places that are settled, the latest first. -/
  settled : List Nat

/-- Ascending places with one more, unless it is there. -/
def insertPlace (i : Nat) : List Nat → List Nat
  | [] => [i]
  | j :: js =>
    if i < j then i :: j :: js
    else if i = j then j :: js
    else j :: insertPlace i js

theorem length_insertPlace_le (i : Nat) (js : List Nat) :
    (insertPlace i js).length ≤ js.length + 1 := by
  induction js with
  | nil => exact Nat.le_refl _
  | cons j js ih =>
    unfold insertPlace
    split
    · simp
    · split
      · simp
      · simpa using ih

/-- What counters add up to. -/
def total (counts : List Nat) : Nat :=
  counts.foldr (· + ·) 0

@[simp] theorem total_nil : total [] = 0 :=
  rfl

@[simp] theorem total_cons (c : Nat) (cs : List Nat) : total (c :: cs) = c + total cs :=
  rfl

@[simp] theorem total_append (bs cs : List Nat) : total (bs ++ cs) = total bs + total cs := by
  induction bs with
  | nil => simp
  | cons b bs ih => simp [ih, Nat.add_assoc]

/-- Counting down at one place takes one from the total. -/
theorem total_set_of_getElem? : ∀ {counts : List Nat} {d k : Nat}, counts[d]? = some (k + 1) →
    total (counts.set d k) + 1 = total counts
  | [], _, _, h => by simp at h
  | c :: cs, 0, k, h => by
    simp only [List.getElem?_cons_zero, Option.some.injEq] at h
    subst h
    simp only [List.set_cons_zero, total_cons]
    omega
  | c :: cs, d + 1, k, h => by
    have hrest : cs[d]? = some (k + 1) := by simpa using h
    have := total_set_of_getElem? hrest
    simp only [List.set_cons_succ, total_cons]
    omega

namespace Settling

/-- A place has one fewer to wait for and is ready if that was the last. -/
def release (p : Settling) (d : Nat) : Settling :=
  match p.waiting[d]? with
  | some (k + 1) =>
    { p with
      waiting := p.waiting.set d k
      ready := if k = 0 then insertPlace d p.ready else p.ready }
  | _ => p

/-- Settles the first place that is ready. -/
def step (dependents : Nat → List Nat) (p : Settling) : Option Settling :=
  match p.ready with
  | [] => none
  | i :: ready =>
    some ((dependents i).foldl release { p with ready, settled := i :: p.settled })

/-- What is left to do at most. -/
def load (p : Settling) : Nat :=
  total p.waiting + p.ready.length

theorem load_release_le (p : Settling) (d : Nat) : (p.release d).load ≤ p.load := by
  unfold release
  split
  next k h =>
    have hsum := total_set_of_getElem? h
    have hlength := length_insertPlace_le d p.ready
    simp only [load]
    split <;> omega
  next => exact Nat.le_refl _

theorem load_foldl_release_le (ds : List Nat) (p : Settling) :
    (ds.foldl release p).load ≤ p.load := by
  induction ds generalizing p with
  | nil => exact Nat.le_refl _
  | cons d ds ih => exact Nat.le_trans (ih (p.release d)) (load_release_le p d)

theorem load_lt_of_step {dependents : Nat → List Nat} {p q : Settling}
    (h : p.step dependents = some q) : q.load < p.load := by
  unfold step at h
  split at h
  next => simp at h
  next i ready hready =>
    rw [← Option.some.inj h]
    refine Nat.lt_of_le_of_lt (load_foldl_release_le _ _) ?_
    simp only [load, hready, List.length_cons]
    omega

/-- The places settled in the end, in the order in which they are. -/
def run (dependents : Nat → List Nat) (p : Settling) : List Nat :=
  match _h : p.step dependents with
  | none => p.settled.reverse
  | some q => run dependents q
termination_by p.load
decreasing_by exact load_lt_of_step _h

/-- No place is settled yet, and those that depend on none are ready. -/
def start (deps : Nat → List Nat) (n : Nat) : Settling :=
  let waiting := (List.range n).map fun d =>
    ((List.range n).filter fun j => (deps d).contains j).length
  { waiting
    ready := (List.range n).filter fun d => waiting[d]? == some 0
    settled := [] }

end Settling

/-- The places, of `n`, that depend on a place. -/
def dependents (deps : Nat → List Nat) (n i : Nat) : List Nat :=
  (List.range n).filter fun d => (deps d).contains i

/-- The places that can be settled, of `n`, in the order in which they are, and the others. -/
def settle (deps : Nat → List Nat) (n : Nat) : List Nat × List Nat :=
  let settled := (Settling.start deps n).run (dependents deps n)
  (settled, (List.range n).filter fun i => !settled.contains i)

/-! ### Arranging what is not -/

/-- Places with their numbers of demotions, arranged: one that depends on a place behind it is moved
to the end as long as it has not been moved more than `cap` times. -/
def demote (cap : Nat) (deps : Nat → List Nat) (queue : List (Nat × Nat)) : List Nat :=
  match queue with
  | [] => []
  | (i, n) :: rest =>
    if _h : n ≤ cap ∧ rest.any (fun (j, _) => (deps i).contains j) = true then
      demote cap deps (rest ++ [(i, n + 1)])
    else i :: demote cap deps rest
termination_by total (queue.map fun (_, n) => cap + 1 - n) + queue.length
decreasing_by
  · simp only [List.map_append, List.map_cons, List.map_nil, total_append, total_cons, total_nil,
      List.length_append, List.length_cons, List.length_nil]
    omega
  · simp only [List.map_cons, total_cons, List.length_cons]
    omega

/-- How often an item may be demoted, as a multiple of the number of tables. -/
def demotionFactor : Nat :=
  3

namespace Database

/-- The places, among the items, of what the item at a place depends on. -/
def dependencyPlaces (db : Database) (items : List OrderItem) (item : OrderItem) : List Nat :=
  match item.table with
  | none => []
  | some table =>
    (db.dependencies (item.schema, table)).filterMap fun key => lastPlace? (.ofKey key) items

/-- For each place of the order of declaration, the places that its item depends on. -/
def dependencyTable (db : Database) : List (List Nat) :=
  db.naturalOrder.map (db.dependencyPlaces db.naturalOrder)

/-- The order in which tables are worked on. -/
def dependencyOrder (db : Database) : List OrderItem :=
  let items := db.naturalOrder
  let table := db.dependencyTable
  let deps (i : Nat) := table.getD i []
  let (settled, rest) := settle deps items.length
  let tables := (items.filter (·.table.isSome)).length
  let places := settled ++ demote (demotionFactor * max 1 tables) deps (rest.map fun i => (i, 0))
  places.filterMap (items[·]?)

end Database

end SchemaPlan
