import Mathlib.Data.Fintype.Pigeonhole
import Mathlib.Data.List.Flatten
import Mathlib.Data.List.Perm.Basic
import SchemaPlan.Proofs.Settling

/-!
# Items in the order of their places

Tables and views are put in order in the same way: their places are settled as far as possible
(`Settling.lean`) and the other places follow.  This file carries what is known of settling over to
the items that stand at the places, for any list of items and any relation between them that the
places follow (`PlacesFollow`).

An item is *tangled* when it is on a circle of the relation or leads to one.  A place that cannot be
settled depends on another such place, and since there are only so many, that leads into a circle
(`exists_circle`); a place that is settled stands behind all it depends on, so nothing that it leads
to is on a circle (`not_tangled_of_acc`).  So the items settled are those that are not tangled, and
what a settled order is like, `Arranged`, is read off (`arranged_of_splits`).
-/

namespace SchemaPlan

/-! ### Circles -/

section Circles

variable {α : Type} {r : α → α → Prop}

/-- On a circle, or leading to one. -/
def Tangled (r : α → α → Prop) (a : α) : Prop :=
  ∃ b, Relation.ReflTransGen r a b ∧ Relation.TransGen r b b

theorem Tangled.next {a : α} (h : Tangled r a) : ∃ b, r a b ∧ Tangled r b := by
  obtain ⟨c, hac, hc⟩ := h
  rcases Relation.ReflTransGen.cases_head hac with rfl | ⟨b, hab, hbc⟩
  · obtain ⟨b, hab, hba⟩ := Relation.TransGen.head'_iff.1 hc
    exact ⟨b, hab, a, hba, hc⟩
  · exact ⟨b, hab, c, hbc, hc⟩

theorem Tangled.lift {β : Type} {q : β → β → Prop} (f : α → β)
    (hf : ∀ a b, r a b → q (f a) (f b)) {a : α} (h : Tangled r a) : Tangled q (f a) := by
  obtain ⟨b, hab, hb⟩ := h
  exact ⟨f b, hab.lift f hf, hb.lift f hf⟩

/-- What leads to nothing but ends is not tangled. -/
theorem not_tangled_of_acc {a : α} (h : Acc (fun x y => r y x) a) : ¬ Tangled r a := by
  induction h with
  | intro a _ ih =>
    intro ht
    obtain ⟨b, hab, hb⟩ := ht.next
    exact ih b hab hb

/-- Numbers below a bound that each lead on to another of them lead into a circle: on the way some
number comes up again. -/
theorem exists_circle {r : Nat → Nat → Prop} {stuck : Nat → Prop} {n : Nat}
    (hlt : ∀ i, stuck i → i < n) (hnext : ∀ i, stuck i → ∃ j, stuck j ∧ r i j) {i : Nat}
    (hi : stuck i) : Tangled r i := by
  choose next hnextStuck hnextEdge using hnext
  let walk : Nat → { i // stuck i } := fun k =>
    k.rec ⟨i, hi⟩ fun _ x => ⟨next x.1 x.2, hnextStuck x.1 x.2⟩
  have hstep : ∀ k, r (walk k).1 (walk (k + 1)).1 := fun k => hnextEdge (walk k).1 (walk k).2
  have hwalk : ∀ k m, Relation.ReflTransGen r (walk k).1 (walk (k + m)).1 := by
    intro k m
    induction m with
    | zero => exact .refl
    | succ m ih => exact ih.tail (hstep (k + m))
  obtain ⟨a, b, hne, heq⟩ := Finite.exists_ne_map_eq_of_infinite fun k =>
    (⟨(walk k).1, hlt _ (walk k).2⟩ : Fin n)
  have hsame : (walk a).1 = (walk b).1 := congrArg Fin.val heq
  have hcircle : ∀ {a b : Nat}, a < b → (walk a).1 = (walk b).1 →
      Relation.TransGen r (walk a).1 (walk a).1 := by
    intro a b hab hsame
    obtain ⟨m, rfl⟩ := Nat.exists_eq_add_of_lt hab
    have hback := hwalk (a + 1) m
    rw [show a + 1 + m = a + m + 1 by omega, ← hsame] at hback
    exact .head' (hstep a) hback
  have hreach : ∀ a, Relation.ReflTransGen r i (walk a).1 := by
    intro a
    have hfrom := hwalk 0 a
    rwa [Nat.zero_add] at hfrom
  rcases Nat.lt_or_gt_of_ne hne with hab | hba
  · exact ⟨_, hreach a, hcircle hab hsame⟩
  · exact ⟨_, hreach b, hcircle hba hsame.symm⟩

end Circles

/-! ### Places of a list -/

theorem filterMap_getElem?_range {α : Type} (xs : List α) :
    (List.range xs.length).filterMap (xs[·]?) = xs := by
  induction xs using List.reverseRecOn with
  | nil => rfl
  | append_singleton xs x ih =>
    have hfront : (List.range xs.length).filterMap ((xs ++ [x])[·]?) = xs := by
      refine (List.filterMap_congr fun i hi => ?_).trans ih
      exact List.getElem?_append_left (List.mem_range.1 hi)
    rw [List.length_append, List.length_singleton, List.range_succ, List.filterMap_append, hfront]
    simp

/-- What stands at all places, in whatever order, is the whole list. -/
theorem perm_of_places {α : Type} {xs : List α} {places : List Nat}
    (h : places.Perm (List.range xs.length)) : (places.filterMap (xs[·]?)).Perm xs :=
  (h.filterMap _).trans (.of_eq (filterMap_getElem?_range xs))

theorem getElem?_of_lastPlace? {α : Type} [BEq α] [LawfulBEq α] {x : α} {xs : List α} {i : Nat}
    (h : lastPlace? x xs = some i) : xs[i]? = some x := by
  obtain ⟨k, hk, rfl⟩ := Option.map_eq_some_iff.1 h
  obtain ⟨hlt, hx, -⟩ := List.findIdx?_eq_some_iff_getElem.1 hk
  rw [List.getElem_reverse, beq_iff_eq] at hx
  rw [List.length_reverse] at hlt
  rw [List.getElem?_eq_getElem (by omega), hx]

theorem isSome_lastPlace?_of_mem {α : Type} [BEq α] [LawfulBEq α] {x : α} {xs : List α}
    (h : x ∈ xs) : ∃ i, lastPlace? x xs = some i := by
  have hsome : (xs.reverse.findIdx? (· == x)).isSome := by
    rw [List.findIdx?_isSome, List.any_eq_true]
    exact ⟨x, List.mem_reverse.2 h, beq_self_eq_true x⟩
  obtain ⟨k, hk⟩ := Option.isSome_iff_exists.1 hsome
  exact ⟨_, Option.map_eq_some_iff.2 ⟨k, hk, rfl⟩⟩

/-! ### Items and what they depend on -/

section Items

variable {α : Type}

/-- What stands at places of a list. -/
def entriesAt (xs : List α) (places : List Nat) : List α :=
  places.filterMap (xs[·]?)

theorem getElem?_entriesAt {xs : List α} {places : List Nat} (h : ∀ i ∈ places, i < xs.length)
    (k : Nat) : (entriesAt xs places)[k]? = places[k]?.bind (xs[·]?) := by
  induction places generalizing k with
  | nil => rfl
  | cons i places ih =>
    obtain ⟨a, hi⟩ : ∃ a, xs[i]? = some a := ⟨_, List.getElem?_eq_getElem (h i List.mem_cons_self)⟩
    have hcons : entriesAt xs (i :: places) = a :: entriesAt xs places :=
      List.filterMap_cons_some hi
    rw [hcons]
    cases k with
    | zero => exact hi.symm
    | succ k => exact ih (fun j hj => h j (List.mem_cons_of_mem _ hj)) k

/-- Items listed so that each stands behind those that it depends on. -/
def ListedBehind (r : α → α → Prop) (order : List α) : Prop :=
  ∀ (i j : Nat) (a b : α), order[i]? = some a → order[j]? = some b → r a b → j < i

/-- Places of a list depend on each other as the items do that stand there. -/
structure PlacesFollow (deps : Nat → List Nat) (xs : List α) (r : α → α → Prop) : Prop where
  lt : ∀ i, ∀ j ∈ deps i, j < xs.length
  mem_iff : ∀ {i j : Nat} {a b : α}, xs[i]? = some a → xs[j]? = some b → (j ∈ deps i ↔ r a b)
  listed : ∀ {a b : α}, r a b → a ∈ xs

variable {xs : List α} {r : α → α → Prop} {deps : Nat → List Nat} {settled rest : List Nat}

/-- Nothing that a settled item leads to goes on for ever. -/
theorem acc_of_settled (hr : PlacesFollow deps xs r) (hs : Splits deps xs.length settled rest) :
    ∀ (m : Nat) (front back : List Nat) (i : Nat) (a : α), front.length = m →
      settled = front ++ i :: back → xs[i]? = some a → Acc (fun x y => r y x) a := by
  intro m
  induction m using Nat.strongRecOn with
  | ind m ih =>
    intro front back i a hm he ha
    refine .intro a fun b hab => ?_
    by_cases hb : b ∈ xs
    · obtain ⟨j, hj⟩ := List.mem_iff_getElem?.1 hb
      have hjfront := hs.behind front i back he j ((hr.mem_iff ha hj).2 hab)
      obtain ⟨before, after, rfl⟩ := List.append_of_mem hjfront
      refine ih before.length ?_ before (after ++ i :: back) j b rfl ?_ hj
      · rw [← hm]
        simp
      · rw [he]
        simp
    · exact .intro b fun c hbc => absurd (hr.listed hbc) hb

theorem not_tangled_of_settled (hr : PlacesFollow deps xs r)
    (hs : Splits deps xs.length settled rest) {i : Nat} (hi : i ∈ settled) {a : α}
    (ha : xs[i]? = some a) : ¬ Tangled r a := by
  obtain ⟨front, back, he⟩ := List.append_of_mem hi
  exact not_tangled_of_acc (acc_of_settled hr hs _ front back i a rfl he ha)

theorem tangled_of_rest (hr : PlacesFollow deps xs r) (hs : Splits deps xs.length settled rest)
    {i : Nat} (hi : i ∈ rest) {a : α} (ha : xs[i]? = some a) : Tangled r a := by
  have hlt : ∀ j ∈ rest, j < xs.length := fun j hj =>
    List.mem_range.1 (hs.perm.mem_iff.1 (List.mem_append_right _ hj))
  have hcircle : Tangled (fun i j => j ∈ deps i ∧ i ∈ rest) i := by
    refine exists_circle hlt (fun j hj => ?_) hi
    obtain ⟨k, hk, hdep⟩ := hs.stuck j hj
    exact ⟨k, hk, hdep, hj⟩
  have hitem : xs.getD i a = a := by
    rw [List.getD_eq_getElem?_getD, ha]
    rfl
  rw [← hitem]
  refine hcircle.lift (xs.getD · a) fun j k hjk => ?_
  have hjItem := List.getElem?_eq_getElem (hlt j hjk.2)
  have hkItem := List.getElem?_eq_getElem (hr.lt j k hjk.1)
  rw [List.getD_eq_getElem?_getD, List.getD_eq_getElem?_getD, hjItem, hkItem]
  exact (hr.mem_iff hjItem hkItem).1 hjk.1

/-- The place of an item that is listed, and which part of the order it is in. -/
theorem exists_place (hs : Splits deps xs.length settled rest) {k : Nat} {a : α}
    (ha : (entriesAt xs (settled ++ rest))[k]? = some a) :
    ∃ i, (settled ++ rest)[k]? = some i ∧ xs[i]? = some a ∧
      (k < settled.length ∧ i ∈ settled ∨ settled.length ≤ k ∧ i ∈ rest) := by
  rw [getElem?_entriesAt fun i hi => List.mem_range.1 (hs.perm.mem_iff.1 hi)] at ha
  obtain ⟨i, hi, ha⟩ := Option.bind_eq_some_iff.1 ha
  refine ⟨i, hi, ha, ?_⟩
  by_cases hk : k < settled.length
  · rw [List.getElem?_append_left hk] at hi
    exact .inl ⟨hk, List.mem_of_getElem? hi⟩
  · rw [List.getElem?_append_right (Nat.le_of_not_lt hk)] at hi
    exact .inr ⟨Nat.le_of_not_lt hk, List.mem_of_getElem? hi⟩

/-- Which part of the order an item is in depends on whether it is tangled. -/
theorem lt_length_iff (hr : PlacesFollow deps xs r) (hs : Splits deps xs.length settled rest)
    {k : Nat} {a : α} (ha : (entriesAt xs (settled ++ rest))[k]? = some a) :
    k < settled.length ↔ ¬ Tangled r a := by
  obtain ⟨i, -, hitem, ⟨hk, hi⟩ | ⟨hk, hi⟩⟩ := exists_place hs ha
  · exact iff_of_true hk (not_tangled_of_settled hr hs hi hitem)
  · exact iff_of_false (Nat.not_lt.2 hk) (not_not.2 (tangled_of_rest hr hs hi hitem))

theorem behind_of_splits (hr : PlacesFollow deps xs r) (hs : Splits deps xs.length settled rest)
    {k l : Nat} {a b : α} (ha : (entriesAt xs (settled ++ rest))[k]? = some a)
    (hb : (entriesAt xs (settled ++ rest))[l]? = some b) (hnot : ¬ Tangled r a) (hab : r a b) :
    l < k := by
  have hk := (lt_length_iff hr hs ha).2 hnot
  obtain ⟨i, hi, hiItem, -⟩ := exists_place hs ha
  obtain ⟨j, hj, hjItem, -⟩ := exists_place hs hb
  have hdep := (hr.mem_iff hiItem hjItem).2 hab
  rw [List.getElem?_append_left hk, List.getElem?_eq_some_iff] at hi
  obtain ⟨_, hi⟩ := hi
  have hsplit : settled = settled.take k ++ i :: settled.drop (k + 1) := by
    rw [← hi, List.getElem_cons_drop, List.take_append_drop]
  obtain ⟨m, hm⟩ := List.mem_iff_getElem?.1 (hs.behind _ _ _ hsplit j hdep)
  obtain ⟨hmlt, -⟩ := List.getElem?_eq_some_iff.1 hm
  rw [List.length_take] at hmlt
  rw [List.getElem?_take_of_lt (by omega)] at hm
  have hmAll : (settled ++ rest)[m]? = some j := by
    rw [List.getElem?_append_left (by omega)]
    exact hm
  have hnodup : (settled ++ rest).Nodup := hs.perm.nodup_iff.2 List.nodup_range
  have hl : l < (settled ++ rest).length := (List.getElem?_eq_some_iff.1 hj).1
  have hlm : l = m := (List.getElem?_inj hl hnodup).1 (hj.trans hmAll.symm)
  omega

/-- Where nothing is on a circle, everything is settled. -/
theorem rest_eq_nil (hr : PlacesFollow deps xs r) (hs : Splits deps xs.length settled rest)
    (hacyclic : ∀ a, ¬ Relation.TransGen r a a) : rest = [] := by
  refine List.eq_nil_iff_forall_not_mem.2 fun i hi => ?_
  have hlt := List.mem_range.1 (hs.perm.mem_iff.1 (List.mem_append_right _ hi))
  obtain ⟨b, -, hb⟩ := tangled_of_rest hr hs hi (List.getElem?_eq_getElem hlt)
  exact hacyclic b hb

/-- Where each item stands behind those that it depends on, each place does. -/
theorem behind_of_listedBehind (hr : PlacesFollow deps xs r) {other : List Nat}
    (hperm : other.Perm (List.range xs.length)) (hother : ListedBehind r (entriesAt xs other)) :
    ∀ front i back, other = front ++ i :: back → ∀ j ∈ deps i, j ∈ front := by
  have hlt : ∀ i ∈ other, i < xs.length := fun i hi => List.mem_range.1 (hperm.mem_iff.1 hi)
  rintro front i back rfl j hj
  have hjlt := hr.lt i j hj
  have hilt : i < xs.length := hlt i (by simp)
  obtain ⟨l, hl⟩ := List.mem_iff_getElem?.1 (hperm.mem_iff.2 (List.mem_range.2 hjlt))
  have hi : (front ++ i :: back)[front.length]? = some i := by simp
  have hiItem := List.getElem?_eq_getElem hilt
  have hjItem := List.getElem?_eq_getElem hjlt
  have hbefore : l < front.length := by
    refine hother front.length l _ _ ?_ ?_ ((hr.mem_iff hiItem hjItem).1 hj)
    · rw [getElem?_entriesAt hlt, hi]
      exact hiItem
    · rw [getElem?_entriesAt hlt, hl]
      exact hjItem
  rw [List.getElem?_append_left hbefore] at hl
  exact List.mem_of_getElem? hl

/-! ### What a settled order is like -/

/-- The items of a list in an order by what they depend on. -/
structure Arranged (xs : List α) (r : α → α → Prop) (order : List α) : Prop where
  perm : order.Perm xs
  /-- What is not tangled comes before everything that is. -/
  tangled_last : ∀ (i j : Nat) (a b : α), order[i]? = some a → order[j]? = some b →
    ¬ Tangled r a → Tangled r b → i < j
  /-- What is not tangled comes behind all that it depends on. -/
  behind : ∀ (i j : Nat) (a b : α), order[i]? = some a → order[j]? = some b →
    ¬ Tangled r a → r a b → j < i
  respects : (∀ a, ¬ Relation.TransGen r a a) → ListedBehind r order
  /-- Without circles, no other order that respects the relation is less by places in the list. -/
  least : (∀ a, ¬ Relation.TransGen r a a) → ∃ places, places.Perm (List.range xs.length) ∧
    order = entriesAt xs places ∧ ∀ other, other.Perm (List.range xs.length) →
      ListedBehind r (entriesAt xs other) → LexLe places other

/-- **Settled places put items in order**, whatever order the rest is in. -/
theorem arranged_of_splits (hr : PlacesFollow deps xs r)
    (hs : Splits deps xs.length settled rest) :
    Arranged xs r (entriesAt xs (settled ++ rest)) where
  perm := perm_of_places hs.perm
  tangled_last i j a b ha hb hnot htangled := by
    have hi := (lt_length_iff hr hs ha).2 hnot
    have hj : ¬ j < settled.length := fun hj => (lt_length_iff hr hs hb).1 hj htangled
    omega
  behind i j a b ha hb hnot hab := behind_of_splits hr hs ha hb hnot hab
  respects hacyclic i j a b ha hb hab := by
    refine behind_of_splits hr hs ha hb ?_ hab
    rintro ⟨c, -, hc⟩
    exact hacyclic c hc
  least hacyclic := by
    refine ⟨settled ++ rest, hs.perm, rfl, fun other hperm hother => ?_⟩
    rw [rest_eq_nil hr hs hacyclic, List.append_nil]
    exact hs.least other hperm (behind_of_listedBehind hr hperm hother)

end Items

end SchemaPlan
