import Mathlib.Data.List.Chain
import SchemaPlan.Proofs.DependencyOrder

/-!
# Arranging places by demotion

`demote` arranges places that depend on each other in circles.  It looks at them one after another and
moves a place to the end, that is, demotes it, if it depends on one behind it and has not been demoted
too often.  `Arranging` is what such a run has before it: the places it has passed, those that it still
looks at, and a record of the demotions.

The run ends because each step takes from the demotions that are left or from the places to look at.
What keeps the order right is an invariant of the places passed (`Arranging.Sound`): whichever of them
depends on a place behind it has used up its demotions.  A step permutes what is behind the places
passed, so it is said of a place passed and all places behind it, wherever these will end up.

`demotion_gives_up_at_cap` is the result.  On a circle some place stands before the one it depends on,
in whatever order they are, and so it has used up its demotions.
-/

namespace SchemaPlan

/-- How far places have been arranged. -/
structure Arranging where
  /-- The places that stay where they are. -/
  passed : List Nat
  /-- The places still to be looked at. -/
  queue : List Nat
  /-- The places demoted so far, the latest first. -/
  demoted : List Nat

namespace Arranging

/-- Nothing has been looked at. -/
def start (places : List Nat) : Arranging :=
  ⟨[], places, []⟩

/-- Looks at the next place. -/
def step (cap : Nat) (deps : Nat → List Nat) (a : Arranging) : Option Arranging :=
  match a.queue with
  | [] => none
  | i :: rest =>
    if a.demoted.count i ≤ cap ∧ rest.any (fun j => (deps i).contains j) = true then
      some { a with queue := rest ++ [i], demoted := i :: a.demoted }
    else some { a with passed := a.passed ++ [i], queue := rest }

/-- The state is passed on the way from another. -/
abbrev Reaches (cap : Nat) (deps : Nat → List Nat) : Arranging → Arranging → Prop :=
  Relation.ReflTransGen fun a b => a.step cap deps = some b

/-- All places, in the order in which they are now. -/
def places (a : Arranging) : List Nat :=
  a.passed ++ a.queue

/-- The demotions that the places still to be looked at have left. -/
def left (cap : Nat) (a : Arranging) : Nat :=
  total (a.queue.map fun i => cap + 1 - a.demoted.count i)

variable {cap : Nat} {deps : Nat → List Nat} {a b : Arranging} {places : List Nat}

/-! ### Single steps -/

/-- **What a step does**: it demotes a place that depends on one behind it, or passes one that does not
or may not be demoted any more. -/
theorem step_cases (h : a.step cap deps = some b) : ∃ i rest, a.queue = i :: rest ∧
    ((a.demoted.count i ≤ cap ∧ (∃ j ∈ rest, j ∈ deps i) ∧
        b = { a with queue := rest ++ [i], demoted := i :: a.demoted }) ∨
      ((a.demoted.count i ≤ cap → ∀ j ∈ rest, j ∉ deps i) ∧
        b = { a with passed := a.passed ++ [i], queue := rest })) := by
  unfold step at h
  split at h
  next => cases h
  next i rest hqueue =>
    refine ⟨i, rest, hqueue, ?_⟩
    simp only [List.any_eq_true, List.contains_iff_mem] at h
    split at h
    next hmove => exact .inl ⟨hmove.1, hmove.2, (Option.some.inj h).symm⟩
    next hstay =>
      refine .inr ⟨fun hcap j hj hdep => hstay ⟨hcap, j, hj, hdep⟩, (Option.some.inj h).symm⟩

theorem step_eq_none (h : a.queue = []) : a.step cap deps = none := by
  rw [step, h]

theorem perm_of_step (h : a.step cap deps = some b) : b.places.Perm a.places := by
  obtain ⟨i, rest, hqueue, ⟨-, -, rfl⟩ | ⟨-, rfl⟩⟩ := step_cases h
  · rw [Arranging.places, Arranging.places, hqueue]
    exact (List.perm_append_singleton i rest).append_left a.passed
  · rw [Arranging.places, Arranging.places, hqueue, List.append_assoc]
    exact .refl _

/-- Demoting one place changes the number of demotions of no other. -/
theorem map_count_cons {β : Type} (f : Nat → Nat → β) {i : Nat} {rest : List Nat} (h : i ∉ rest)
    (demoted : List Nat) : (rest.map fun j => f j ((i :: demoted).count j)) =
      rest.map fun j => f j (demoted.count j) := by
  refine List.map_congr_left fun j hj => ?_
  have hne : i ≠ j := fun he => h (he ▸ hj)
  rw [List.count_cons_of_ne hne]

/-- A demotion uses up one of those that are left. -/
theorem left_of_step (h : a.step cap deps = some b) (hnodup : a.queue.Nodup) :
    b.demoted.length + b.left cap ≤ a.demoted.length + a.left cap := by
  obtain ⟨i, rest, hqueue, ⟨hcap, -, rfl⟩ | ⟨-, rfl⟩⟩ := step_cases h
  · rw [hqueue] at hnodup
    have hi : i ∉ rest := (List.nodup_cons.1 hnodup).1
    simp only [left, hqueue, List.map_append, total_append, List.map_cons, List.map_nil, total_cons,
      total_nil, List.length_cons, List.count_cons_self]
    rw [map_count_cons (fun _ n => cap + 1 - n) hi]
    omega
  · simp only [left, hqueue, List.map_cons, total_cons]
    omega

/-! ### What stays true -/

/-- The first place may stand before the second: it does not depend on it, or has been demoted as often
as may be. -/
def Excused (cap : Nat) (deps : Nat → List Nat) (demoted : List Nat) (i j : Nat) : Prop :=
  j ∈ deps i → demoted.count i = cap + 1

/-- What is true on the way from places that are to be arranged. -/
structure Sound (cap : Nat) (deps : Nat → List Nat) (places : List Nat) (a : Arranging) : Prop where
  perm : a.places.Perm places
  capped : ∀ i, a.demoted.count i ≤ cap + 1
  few : a.demoted.length + a.left cap ≤ places.length * (cap + 1)
  passed : a.passed.Pairwise (Excused cap deps a.demoted)
  behind : ∀ i ∈ a.passed, ∀ j ∈ a.queue, Excused cap deps a.demoted i j

theorem sound_start (places : List Nat) : (start places).Sound cap deps places where
  perm := .refl _
  capped _ := Nat.zero_le _
  few := by
    have htotal : ∀ is : List Nat, total (is.map fun i => cap + 1 - ([] : List Nat).count i) =
        is.length * (cap + 1) := by
      intro is
      induction is with
      | nil => simp
      | cons i is ih =>
        rw [List.map_cons, total_cons, ih, List.length_cons, Nat.succ_mul, List.count_nil]
        omega
    rw [start, left, htotal, List.length_nil, Nat.zero_add]
  passed := List.Pairwise.nil
  behind _ hi := absurd hi List.not_mem_nil

/-- **A step keeps the invariant.** -/
theorem Sound.step (h : a.Sound cap deps places) (hplaces : places.Nodup)
    (hstep : a.step cap deps = some b) : b.Sound cap deps places := by
  have hnodup : a.places.Nodup := h.perm.nodup_iff.2 hplaces
  obtain ⟨-, hqueued, hdisjoint⟩ := List.nodup_append.1 hnodup
  have hperm : b.places.Perm places := (perm_of_step hstep).trans h.perm
  have hfew := (left_of_step hstep hqueued).trans h.few
  obtain ⟨i, rest, hqueue, hcase⟩ := step_cases hstep
  have hi : i ∈ a.queue := hqueue ▸ List.mem_cons_self
  have hrest : ∀ j ∈ rest, j ∈ a.queue := fun j hj => hqueue ▸ List.mem_cons_of_mem i hj
  obtain ⟨hcap, -, rfl⟩ | ⟨hstay, rfl⟩ := hcase
  · -- No place passed is the one demoted, so their numbers of demotions are what they were.
    have hexcused : ∀ j ∈ a.passed, ∀ k, Excused cap deps a.demoted j k →
        Excused cap deps (i :: a.demoted) j k := by
      intro j hj k hjk hdep
      rw [List.count_cons_of_ne (hdisjoint j hj i hi).symm]
      exact hjk hdep
    have hcapped : ∀ j, (i :: a.demoted).count j ≤ cap + 1 := by
      intro j
      by_cases hij : i = j
      · rw [← hij, List.count_cons_self]
        exact Nat.succ_le_succ hcap
      · rw [List.count_cons_of_ne hij]
        exact h.capped j
    refine ⟨hperm, hcapped, hfew, ?_, ?_⟩
    · exact h.passed.imp_of_mem fun hj _ hjk => hexcused _ hj _ hjk
    · intro j hj k hk
      have hk' : k ∈ a.queue := by
        rcases List.mem_append.1 hk with hk | hk
        · exact hrest k hk
        · exact List.mem_singleton.1 hk ▸ hi
      exact hexcused j hj k (h.behind j hj k hk')
  · have hpassed : ∀ j ∈ rest, Excused cap deps a.demoted i j := by
      intro j hj hdep
      have hmore : ¬a.demoted.count i ≤ cap := fun hcap => hstay hcap j hj hdep
      have := h.capped i
      omega
    refine ⟨hperm, h.capped, hfew, ?_, ?_⟩
    · refine List.pairwise_append.2 ⟨h.passed, List.pairwise_singleton _ i, fun j hj k hk => ?_⟩
      rw [List.mem_singleton.1 hk]
      exact h.behind j hj i hi
    · intro j hj k hk
      rcases List.mem_append.1 hj with hj | hj
      · exact h.behind j hj k (hrest k hk)
      · rw [List.mem_singleton.1 hj]
        exact hpassed k hk

/-! ### Runs -/

theorem Sound.reaches (h : a.Sound cap deps places) (hplaces : places.Nodup)
    (hr : Reaches cap deps a b) : b.Sound cap deps places := by
  induction hr with
  | refl => exact h
  | tail _ hstep ih => exact ih.step hplaces hstep

/-- **A run ends**, and then the places are arranged as `demote` arranges them. -/
theorem exists_run (cap : Nat) (deps : Nat → List Nat) (a : Arranging) (h : a.queue.Nodup) :
    ∃ b, Reaches cap deps a b ∧ b.queue = [] ∧ b.passed =
      a.passed ++ demote cap deps (a.queue.map fun i => (i, a.demoted.count i)) := by
  generalize hqueue : a.queue.map (fun i => (i, a.demoted.count i)) = queue
  fun_induction demote cap deps queue generalizing a with
  | case1 =>
    refine ⟨a, .refl, List.map_eq_nil_iff.1 hqueue, ?_⟩
    rw [List.append_nil]
  | case2 i n rest hmove ih =>
    obtain ⟨j, js, hq, hj, rfl⟩ := List.map_eq_cons_iff.1 hqueue
    obtain ⟨rfl, rfl⟩ := Prod.mk.inj hj
    rw [List.any_map] at hmove
    let next : Arranging := { a with queue := js ++ [j], demoted := j :: a.demoted }
    have hstep : a.step cap deps = some next := by
      rw [step, hq]
      exact if_pos hmove
    have hnodup : (j :: js).Nodup := hq ▸ h
    have hnext : next.queue.map (fun i => (i, next.demoted.count i)) =
        js.map (fun i => (i, a.demoted.count i)) ++ [(j, a.demoted.count j + 1)] := by
      rw [List.map_append, List.map_singleton,
        map_count_cons (fun i n => (i, n)) (List.nodup_cons.1 hnodup).1, List.count_cons_self]
    obtain ⟨b, hr, hdone, hpassed⟩ := ih next ((List.perm_append_singleton j js).nodup_iff.2 hnodup) hnext
    exact ⟨b, hr.head hstep, hdone, hpassed⟩
  | case3 i n rest hstay ih =>
    obtain ⟨j, js, hq, hj, rfl⟩ := List.map_eq_cons_iff.1 hqueue
    obtain ⟨rfl, rfl⟩ := Prod.mk.inj hj
    rw [List.any_map] at hstay
    let next : Arranging := { a with passed := a.passed ++ [j], queue := js }
    have hstep : a.step cap deps = some next := by
      rw [step, hq]
      exact if_neg hstay
    have hnodup : (j :: js).Nodup := hq ▸ h
    obtain ⟨b, hr, hdone, hpassed⟩ := ih next (List.nodup_cons.1 hnodup).2 rfl
    refine ⟨b, hr.head hstep, hdone, ?_⟩
    rw [hpassed, List.append_assoc, List.singleton_append]

/-- There is one run only, so all that it passes leads to where it ends. -/
theorem reaches_last {c : Arranging} (hlast : b.step cap deps = none) (hb : Reaches cap deps a b)
    (hc : Reaches cap deps a c) : Reaches cap deps c b := by
  have hunique : Relator.RightUnique fun a b : Arranging => a.step cap deps = some b :=
    fun _ _ _ hb hc => Option.some.inj (hb.symm.trans hc)
  rcases Relation.ReflTransGen.total_of_right_unique hunique hb hc with hbc | hcb
  · rcases Relation.ReflTransGen.cases_head hbc with rfl | ⟨d, hstep, -⟩
    · exact .refl
    · rw [hlast] at hstep
      cases hstep
  · exact hcb

/-! ### Circles -/

/-- Each place depends on the next one and the last one on the first, and they are not all the same. -/
def IsCircle (deps : Nat → List Nat) : List Nat → Prop
  | [] => False
  | i :: is => (i :: is ++ [i]).IsChain (fun j k => k ∈ deps j) ∧ ∃ j ∈ is, j ≠ i

/-- Not every place of a circle can stand behind the next one. -/
theorem IsCircle.exists_before {circle order : List Nat} (h : IsCircle deps circle)
    (hcircle : circle ⊆ order) :
    ∃ i ∈ circle, ∃ j ∈ order, j ∈ deps i ∧ order.idxOf i < order.idxOf j := by
  cases circle with
  | nil => exact absurd h id
  | cons first others =>
    obtain ⟨hchain, k, hk, hne⟩ := h
    by_contra hnone
    -- Otherwise the places go back in the order all around, and so do not move at all.
    have hback : (first :: others ++ [first]).IsChain fun i j => order.idxOf j ≤ order.idxOf i := by
      refine hchain.imp_of_mem_imp fun i j hi hj hdep => ?_
      have hmem : ∀ x ∈ first :: others ++ [first], x ∈ first :: others := by
        intro x hx
        rcases List.mem_append.1 hx with hx | hx
        · exact hx
        · exact List.mem_singleton.1 hx ▸ List.mem_cons_self
      refine Nat.le_of_not_lt fun hlt => hnone ?_
      exact ⟨i, hmem i hi, j, hcircle (hmem j hj), hdep, hlt⟩
    have : Trans (fun i j => order.idxOf j ≤ order.idxOf i)
        (fun i j => order.idxOf j ≤ order.idxOf i) fun i j => order.idxOf j ≤ order.idxOf i :=
      ⟨fun hij hjk => hjk.trans hij⟩
    have hpairs := hback.pairwise
    have hk' : k ∈ first :: others := List.mem_cons_of_mem first hk
    have hdown : order.idxOf k ≤ order.idxOf first :=
      List.rel_of_pairwise_cons hpairs (List.mem_append_left [first] hk)
    have hup : order.idxOf first ≤ order.idxOf k :=
      (List.pairwise_append.1 hpairs).2.2 k hk' first List.mem_cons_self
    exact hne ((List.idxOf_inj (hcircle hk')).1 (Nat.le_antisymm hdown hup))

/-- Places that stand before one another are related as the order has it. -/
theorem rel_of_idxOf_lt {r : Nat → Nat → Prop} {order : List Nat} (h : order.Pairwise r) {i j : Nat}
    (hi : i ∈ order) (hj : j ∈ order) (hlt : order.idxOf i < order.idxOf j) : r i j := by
  have hrel := List.pairwise_iff_getElem.1 h _ _ (List.idxOf_lt_length_of_mem hi)
    (List.idxOf_lt_length_of_mem hj) hlt
  rwa [List.getElem_idxOf, List.getElem_idxOf] at hrel

/-! ### What arranging comes to -/

/-- What arranging places comes to. -/
structure Arranges (cap : Nat) (deps : Nat → List Nat) (places : List Nat) (a : Arranging) : Prop where
  /-- Every run from the places as they are ends here. -/
  reached : ∀ b, Reaches cap deps (start places) b → Reaches cap deps b a
  done : a.step cap deps = none
  result : a.passed = demote cap deps (places.map fun i => (i, 0))
  few : a.demoted.length ≤ places.length * (cap + 1)
  capped : ∀ i, a.demoted.count i ≤ cap + 1
  perm : a.passed.Perm places
  /-- A place that stands before one it depends on has used up its demotions. -/
  exhausted : a.passed.Pairwise fun i j => j ∈ deps i → a.demoted.count i = cap + 1
  circles : ∀ circle ⊆ places, IsCircle deps circle → ∃ i ∈ circle, a.demoted.count i = cap + 1
  ordered : (∀ i ∈ places, a.demoted.count i ≤ cap) → a.passed.Pairwise fun i j => j ∉ deps i

theorem exists_arranges (cap : Nat) (deps : Nat → List Nat) (h : places.Nodup) :
    ∃ a, Arranges cap deps places a := by
  obtain ⟨a, hr, hdone, hpassed⟩ := exists_run cap deps (start places) h
  have hsound := (sound_start places).reaches h hr
  have hperm : a.passed.Perm places := by
    have hperm := hsound.perm
    rwa [Arranging.places, hdone, List.append_nil] at hperm
  have hnodup := hperm.nodup_iff.2 h
  refine ⟨a, fun b hb => reaches_last (step_eq_none hdone) hr hb, step_eq_none hdone, hpassed, ?_,
    hsound.capped, hperm, hsound.passed, ?_, ?_⟩
  · exact (Nat.le_add_right _ _).trans hsound.few
  · intro circle hsubset hcircle
    have hpassed' : ∀ i ∈ circle, i ∈ a.passed := fun i hi => hperm.mem_iff.2 (hsubset hi)
    obtain ⟨i, hi, j, hj, hdep, hlt⟩ := hcircle.exists_before hpassed'
    exact ⟨i, hi, rel_of_idxOf_lt hsound.passed (hpassed' i hi) hj hlt hdep⟩
  · intro hwithin
    refine hsound.passed.imp_of_mem fun hi _ hexcused hdep => ?_
    have hcount := hexcused hdep
    have := hwithin _ (hperm.mem_iff.1 hi)
    omega

end Arranging

/-- The tables of a definition that depend on each other in circles, and those that depend on them, are
arranged in this way. -/
theorem Database.exists_arranges_of_dependencyOrder (db : Database) :
    ∃ a, Arranging.Arranges
        (demotionFactor * max 1 (db.naturalOrder.filter (·.table.isSome)).length) db.placeDeps
        (settle db.placeDeps db.naturalOrder.length).2 a ∧
      db.dependencyOrder =
        db.itemsAt ((settle db.placeDeps db.naturalOrder.length).1 ++ a.passed) := by
  have hrest : (settle db.placeDeps db.naturalOrder.length).2.Nodup := List.nodup_range.filter _
  obtain ⟨a, ha⟩ := Arranging.exists_arranges
    (demotionFactor * max 1 (db.naturalOrder.filter (·.table.isSome)).length) db.placeDeps hrest
  refine ⟨a, ha, ?_⟩
  rw [ha.result]
  rfl

/-- **Demotion gives up at its cap only.**  However places depend on each other, arranging them ends
after a bounded number of demotions, keeps all of them, and leaves a place before one it depends on
only if it was demoted once more than the cap says. -/
theorem demotion_gives_up_at_cap (deps : Nat → List Nat) (places : List Nat) (tables : Nat)
    (h : places.Nodup) :
    ∃ a, Arranging.Arranges (demotionFactor * max 1 tables) deps places a :=
  Arranging.exists_arranges _ deps h

/-- Two tables that refer to each other: the first is demoted until it may be no more. -/
theorem demotion_gives_up_at_cap_of_pair :
    [0, 1].Nodup ∧ Arranging.IsCircle (fun i => [1 - i]) [0, 1] ∧
      ∃ a, Arranging.Arranges (demotionFactor * max 1 2) (fun i => [1 - i]) [0, 1] a := by
  have hnodup : [0, 1].Nodup := by decide
  have hcircle : Arranging.IsCircle (fun i => [1 - i]) [0, 1] := by
    simp [Arranging.IsCircle]
  exact ⟨hnodup, hcircle, demotion_gives_up_at_cap (fun i => [1 - i]) [0, 1] 2 hnodup⟩

end SchemaPlan
