import SchemaPlan.Proofs.ViewRebuild

/-!
# Views in the order of what they read from

Views are put in order like tables (`Arrangement.lean`), with a count of their own: a view waits for
the other views that its query reads from, whatever it takes a query to read from.  Where no view is
declared twice, the place of one view depends on the place of another exactly if it reads from it
(`mem_viewDeps`).  Views that are on a circle, or read from one that is, stay behind the others as
they are declared.

A plan goes through that order twice, backwards over the views that there were and forwards over
those that there are to be.  So nothing is dropped that a view left standing reads from, and nothing
created before what it reads from (`Comparison.viewsInOrder_of_plan`), circles apart.
-/

namespace SchemaPlan

namespace Database

/-- One view of a definition reads from another.  That a view reads from itself is left out. -/
def Reads [QueryReader] (db : Database) (a b : String × View) : Prop :=
  a ∈ db.views ∧ b ∈ db.views ∧ b ≠ a ∧
    (b.1, b.2.name) ∈ QueryReader.references a.2.query a.1

variable {db : Database}

/-! ### Places of views -/

theorem viewDeps_eq [QueryReader] {i : Nat} {a : String × View} (ha : db.views[i]? = some a) :
    db.viewDeps i =
      ((QueryReader.references a.2.query a.1).filterMap fun key =>
        lastPlace? key db.viewKeys).filter (· != i) := by
  rw [viewDeps, List.getD_eq_getElem?_getD, List.getElem?_map, List.getElem?_zipIdx, ha]
  simp [viewKeys]

theorem getElem?_viewKeys {i : Nat} {a : String × View} (ha : db.views[i]? = some a) :
    db.viewKeys[i]? = some (a.1, a.2.name) := by
  rw [viewKeys, List.getElem?_map, ha]
  rfl

/-- Where no view is declared twice, a view has one place. -/
theorem viewPlace_unique (h : db.viewKeys.Nodup) {i j : Nat} {key : String × String}
    (hi : db.viewKeys[i]? = some key) (hj : db.viewKeys[j]? = some key) : i = j :=
  (List.getElem?_inj (List.getElem?_eq_some_iff.1 hi).1 h).1 (hi.trans hj.symm)

/-- **The place of a view depends on those of the views that it reads from.** -/
theorem mem_viewDeps [QueryReader] (h : db.viewKeys.Nodup) {i j : Nat} {a b : String × View}
    (ha : db.views[i]? = some a) (hb : db.views[j]? = some b) :
    j ∈ db.viewDeps i ↔ db.Reads a b := by
  have hbKey := getElem?_viewKeys hb
  rw [viewDeps_eq ha, List.mem_filter, List.mem_filterMap, bne_iff_ne]
  constructor
  · rintro ⟨⟨key, hkey, hplace⟩, hne⟩
    obtain rfl : key = (b.1, b.2.name) :=
      Option.some.inj ((getElem?_of_lastPlace? hplace).symm.trans hbKey)
    refine ⟨List.mem_of_getElem? ha, List.mem_of_getElem? hb, ?_, hkey⟩
    rintro rfl
    exact hne (viewPlace_unique h hbKey (getElem?_viewKeys ha))
  · rintro ⟨-, -, hne, hkey⟩
    obtain ⟨k, hk⟩ := isSome_lastPlace?_of_mem (List.mem_of_getElem? hbKey)
    refine ⟨⟨_, hkey, ?_⟩, ?_⟩
    · rw [hk, viewPlace_unique h (getElem?_of_lastPlace? hk) hbKey]
    · rintro rfl
      exact hne (Option.some.inj (hb.symm.trans ha))

/-- Places depend on each other as the views do that stand there. -/
theorem viewPlacesFollow [QueryReader] (h : db.viewKeys.Nodup) :
    PlacesFollow db.viewDeps db.views db.Reads where
  lt _ _ hj := lt_of_mem_viewDeps hj
  mem_iff ha hb := mem_viewDeps h ha hb
  listed hab := hab.1

/-! ### The order of views -/

theorem arranged_viewOrder [QueryReader] (h : db.viewKeys.Nodup) :
    Arranged db.views db.Reads (viewOrder db) := by
  rw [viewOrder_eq]
  exact arranged_of_splits (viewPlacesFollow h) (splits_settle fun _ _ => lt_of_mem_viewDeps)

/-- Views that are on circles or lead to them stay as they are declared, behind the others. -/
theorem exists_tangled_behind [QueryReader] (h : db.viewKeys.Nodup) :
    ∃ front back, viewOrder db = front ++ back ∧ (∀ a ∈ front, ¬ Tangled db.Reads a) ∧
      (∀ a ∈ back, Tangled db.Reads a) ∧ back.Sublist db.views := by
  have hsplits : Splits db.viewDeps db.views.length _ _ :=
    splits_settle fun _ _ => lt_of_mem_viewDeps
  refine ⟨_, _, (viewOrder_eq db).trans List.filterMap_append, fun a ha => ?_,
    fun a ha => ?_, ?_⟩
  · obtain ⟨i, hi, ha⟩ := List.mem_filterMap.1 ha
    exact not_tangled_of_settled (viewPlacesFollow h) hsplits hi ha
  · obtain ⟨i, hi, ha⟩ := List.mem_filterMap.1 ha
    exact tangled_of_rest (viewPlacesFollow h) hsplits hi ha
  · have hplaces : (settle db.viewDeps db.views.length).2.Sublist
        (List.range db.views.length) := List.filter_sublist
    have hviews := hplaces.filterMap (db.views[·]?)
    rwa [filterMap_getElem?_range] at hviews

end Database

section Arranged

variable {α : Type} {xs order : List α} {r : α → α → Prop}

/-- In an arranged list everything that an untangled item depends on stands in front of it. -/
theorem Arranged.mem_front (h : Arranged xs r order) (hlisted : ∀ a b, r a b → b ∈ xs)
    {front : List α} {a : α} {back : List α} (he : order = front ++ a :: back)
    (ha : ¬ Tangled r a) {b : α} (hab : r a b) : b ∈ front := by
  obtain ⟨j, hj⟩ := List.mem_iff_getElem?.1 (h.perm.mem_iff.2 (hlisted a b hab))
  have haPlace : order[front.length]? = some a := by simp [he]
  have hlt := h.behind front.length j a b haPlace hj ha hab
  rw [he, List.getElem?_append_left hlt] at hj
  exact List.mem_of_getElem? hj

/-- In an arranged list everything that depends on an untangled item stands behind it. -/
theorem Arranged.mem_back (h : Arranged xs r order) (hlisted : ∀ a b, r a b → a ∈ xs)
    {front : List α} {b : α} {back : List α} (he : order = front ++ b :: back)
    (hb : ¬ Tangled r b) {a : α} (hab : r a b) : a ∈ back := by
  obtain ⟨i, hi⟩ := List.mem_iff_getElem?.1 (h.perm.mem_iff.2 (hlisted a b hab))
  have hbPlace : order[front.length]? = some b := by simp [he]
  have hlt : front.length < i := by
    by_cases ha : Tangled r a
    · exact h.tangled_last front.length i b a hbPlace hi hb ha
    · exact h.behind i front.length a b hi hbPlace ha hab
  rw [he, List.getElem?_append_right (Nat.le_of_lt hlt)] at hi
  obtain ⟨k, hk⟩ : ∃ k, i - front.length = k + 1 := ⟨i - front.length - 1, by omega⟩
  rw [hk, List.getElem?_cons_succ] at hi
  exact List.mem_of_getElem? hi

end Arranged

/-! ### Views in a plan -/

/-- How a plan deals with the views of the version that was and of the new one. -/
structure ViewsInOrder [QueryReader] (was new : Database) (p : Plan) : Prop where
  /-- The views that are dropped are none or all of those that there were.  None of them is dropped
  before a view that reads from it, unless it is on a circle or leads to one. -/
  dropped : ∃ views : List (String × View),
    p.ops.filterMap Op.droppedView? = views.map (fun (s, v) => Sql.qualified s v.name) ∧
      (views = [] ∨ views.Perm was.views) ∧
      ∀ front b back, views = front ++ b :: back →
        ¬ Tangled was.Reads b → ∀ a, was.Reads a b → a ∈ front
  /-- The views that are created are none or all of those that there are to be. -/
  created : p.ops.filterMap Op.createdView? = [] ∨
    (p.ops.filterMap Op.createdView?).Perm new.views
  /-- No view is created before a view that it reads from, unless it is on a circle or leads to
  one. -/
  behind : ∀ front a back, p.ops.filterMap Op.createdView? = front ++ a :: back →
    ¬ Tangled new.Reads a → ∀ b, new.Reads a b → b ∈ front

namespace Comparison

variable {c : Comparison} {p : Plan}

/-- A plan drops and creates no view, or all views in the order in use. -/
theorem viewOps_of_plan [QueryReader] (h : c.plan = .ok p) :
    (p.ops.filterMap Op.droppedView? = [] ∧ p.ops.filterMap Op.createdView? = []) ∨
      (p.ops.filterMap Op.droppedView? =
          (viewOrder (c.old.getD {})).reverse.map (fun (s, v) => Sql.qualified s v.name) ∧
        p.ops.filterMap Op.createdView? = viewOrder c.new) := by
  rcases plan_cases h with ⟨-, hkinds⟩ | ⟨-, work, rows, hwork, hrows, rfl⟩
  · left
    constructor <;>
      refine List.filterMap_eq_nil_iff.2 fun op hop => Option.not_isSome_iff_eq_none.1 fun hview => ?_
    · exact absurd (Op.kind_of_droppedView? hview ▸ hkinds op hop) (by decide)
    · exact absurd (Op.kind_of_createdView? hview ▸ hkinds op hop) (by decide)
  · rw [droppedViews_toPlan hwork hrows, createdViews_toPlan hwork hrows]
    cases hold : c.old with
    | none =>
      right
      have hnone : viewOrder {} = [] := List.perm_nil.1 (viewOrder_perm {})
      have hviews : c.viewWork work.isStructural =
          { viewCreates := (viewOrder c.new).flatMap c.createView } := by
        simp only [viewWork, hold]
      rw [hviews, Option.getD_none, hnone, filterMap_createViews]
      exact ⟨rfl, rfl⟩
    | some db =>
      rcases viewWork_cases hold work.isStructural with ⟨-, -, hviews⟩ | hviews
      · left
        rw [hviews]
        exact ⟨rfl, rfl⟩
      · right
        rw [hviews, filterMap_dropView, filterMap_createViews]
        exact ⟨rfl, rfl⟩

/-- **A plan keeps views in order**, backwards as it drops them and forwards as it creates them. -/
theorem viewsInOrder_of_plan [QueryReader] (h : c.plan = .ok p)
    (hold : (c.old.getD {}).viewKeys.Nodup) (hnew : c.new.viewKeys.Nodup) :
    ViewsInOrder (c.old.getD {}) c.new p := by
  have harrangedOld := Database.arranged_viewOrder hold
  have harrangedNew := Database.arranged_viewOrder hnew
  rcases viewOps_of_plan h with ⟨hdropped, hcreated⟩ | ⟨hdropped, hcreated⟩
  · refine ⟨⟨[], hdropped, .inl rfl, ?_⟩, .inl hcreated, ?_⟩
    · intro front b back he
      simp at he
    · intro front a back he
      simp [hcreated] at he
  · refine ⟨⟨_, hdropped, .inr ((List.reverse_perm _).trans harrangedOld.perm), ?_⟩,
      .inr (hcreated ▸ harrangedNew.perm), ?_⟩
    · intro front b back he hb a hab
      rw [List.reverse_eq_iff, List.reverse_append, List.reverse_cons, List.append_assoc] at he
      exact List.mem_reverse.1 (harrangedOld.mem_back (fun _ _ hr => hr.1) he hb hab)
    · intro front a back he ha b hab
      exact harrangedNew.mem_front (fun _ _ hr => hr.2.1) (hcreated.symm.trans he) ha hab

end Comparison

/-- **Views are put in order, and plans keep to it**, whatever queries are taken to read from.
Settling takes no counter below zero and comes out with every view once: first those that are on no
circle and lead to none, each behind the other views that it reads from, in the least order that
there is if there are no circles at all; then the others as they are declared.  So no plan drops a
view while one that reads from it is left, or creates one before those that it reads from, circles
apart. -/
theorem views_in_order [QueryReader] :
    (∀ db : Database, db.viewKeys.Nodup →
      (∀ q, Settling.Reaches (dependents db.viewDeps db.views.length)
          (Settling.start db.viewDeps db.views.length) q →
        q.CountsDown (dependents db.viewDeps db.views.length)) ∧
      Arranged db.views db.Reads (viewOrder db) ∧
      ∃ front back, viewOrder db = front ++ back ∧ (∀ a ∈ front, ¬ Tangled db.Reads a) ∧
        (∀ a ∈ back, Tangled db.Reads a) ∧ back.Sublist db.views) ∧
    ∀ (old : Option Database) (new : Database) (newOrder oldOrder : Option (List OrderItem))
      (style : Sql.Style) (options : Options) (p : Plan),
      planWithOrders old new newOrder oldOrder style options = .ok p →
        ViewsInOrder (old.getD {}) new p := by
  constructor
  · intro db h
    exact ⟨fun q hq => (Settling.counted_start.reaches hq).countsDown,
      Database.arranged_viewOrder h, Database.exists_tangled_behind h⟩
  · intro old new newOrder oldOrder style options p h
    obtain ⟨hnew, hvalid, c, hmake, hp⟩ := planWithOrders_eq_ok_iff.1 h
    obtain ⟨-, -, -, rfl, rfl, -⟩ := Comparison.make_eq_ok_iff.1 hmake
    refine Comparison.viewsInOrder_of_plan hp ?_
      (Database.coherent_of_validate hnew).nodup_viewKeys
    cases hold : c.old with
    | none => exact List.nodup_nil
    | some db => exact (Database.coherent_of_validate (hvalid db hold)).nodup_viewKeys

/-! ### A newspaper -/

/-- A view of all that another relation holds. -/
def Newspaper.view (name source : String) : View where
  name
  query := "SELECT * FROM " ++ source

/-- In the newspaper a query reads from what stands behind the words that all queries share. -/
local instance Newspaper.reader : QueryReader where
  references query schema := [(schema, String.ofList (query.toList.drop "SELECT * FROM ".length))]

/-- A newspaper whose front page and back page are made up from each other, and whose index is made
up from the front page.  Its digest is declared in front of the news of the day that it reads. -/
def Newspaper.views : List View := [
  Newspaper.view "contents" "front", Newspaper.view "front" "back",
  Newspaper.view "back" "front", Newspaper.view "digest" "today",
  Newspaper.view "today" "articles"]

/-- A newspaper whose articles have columns of their own choice. -/
def Newspaper.database (columns : List Column) : Database where
  schemas := [{
    name := "paper"
    tables := [{
      name := "articles"
      columns := { name := "title", dataType := some "text" } :: columns }]
    views := Newspaper.views }]

/-- The newspaper before its articles are signed. -/
def Newspaper.first : Database :=
  Newspaper.database []

/-- The newspaper with signed articles. -/
def Newspaper.second : Database :=
  Newspaper.database [{ name := "author", dataType := some "text" }]

/-- The plan for articles to be signed. -/
def Newspaper.upgrade : Plan := [
  ⟨.stage1, .dropView "paper.back"⟩,
  ⟨.stage1, .dropView "paper.front"⟩,
  ⟨.stage1, .dropView "paper.contents"⟩,
  ⟨.stage1, .dropView "paper.digest"⟩,
  ⟨.stage1, .dropView "paper.today"⟩,
  ⟨.stage1, .addColumn "paper.articles" { name := "author", dataType := "text" }⟩,
  ⟨.stage3, .createView "paper" (Newspaper.view "today" "articles")⟩,
  ⟨.stage3, .createView "paper" (Newspaper.view "digest" "today")⟩,
  ⟨.stage3, .createView "paper" (Newspaper.view "contents" "front")⟩,
  ⟨.stage3, .createView "paper" (Newspaper.view "front" "back")⟩,
  ⟨.stage3, .createView "paper" (Newspaper.view "back" "front")⟩]

theorem views_in_order_of_newspaper :
    Newspaper.first.viewKeys.Nodup ∧
      viewOrder Newspaper.first = [4, 3, 0, 1, 2].filterMap (Newspaper.first.views[·]?) ∧
      Arranged Newspaper.first.views Newspaper.first.Reads (viewOrder Newspaper.first) ∧
      planWithOrders (some Newspaper.first) Newspaper.second none none {} {} =
        .ok Newspaper.upgrade ∧
      ViewsInOrder Newspaper.first Newspaper.second Newspaper.upgrade := by
  have hkeys : Newspaper.first.viewKeys.Nodup := by decide
  have hplan : planWithOrders (some Newspaper.first) Newspaper.second none none {} {} =
      .ok Newspaper.upgrade := by
    decide +kernel
  exact ⟨hkeys, by decide +kernel, (views_in_order.1 _ hkeys).2.1, hplan,
    views_in_order.2 _ _ _ _ _ _ _ hplan⟩

end SchemaPlan
