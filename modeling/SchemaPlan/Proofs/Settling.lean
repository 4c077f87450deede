import Mathlib.Data.List.Nodup
import Mathlib.Logic.Relation
import SchemaPlan.Order

/-!
# Settling places

Settling takes places one by one, each time the first that waits for none.  `Settling.Counted` is the
invariant behind it: each counter is the number of dependencies left, what is ready is what has none
left, and everything settled stands behind its dependencies.  `Counted.step` says that settling one
place keeps it, `Counted.countsDown` that no counter is taken below zero on the way, and `exists_run`
that a whole run ends where nothing is ready.

The places are settled in the least order there is: whatever order respects the dependencies, the
run comes first when the two are compared place by place (`exists_more_le`).  For at the first point
at which they part, the other order places something that was ready as well.
-/

namespace SchemaPlan

/-! ### Sorted places -/

theorem mem_insertPlace {i j : Nat} {js : List Nat} :
    j ∈ insertPlace i js ↔ j = i ∨ j ∈ js := by
  induction js with
  | nil => simp [insertPlace]
  | cons k ks ih =>
    unfold insertPlace
    split
    · simp
    · split
      next h =>
        subst h
        simp
      next =>
        rw [List.mem_cons, ih, List.mem_cons]
        exact or_left_comm

theorem sorted_insertPlace {i : Nat} {js : List Nat} (h : js.Pairwise (· < ·)) :
    (insertPlace i js).Pairwise (· < ·) := by
  induction js with
  | nil => simp [insertPlace]
  | cons k ks ih =>
    obtain ⟨hk, hks⟩ := List.pairwise_cons.1 h
    unfold insertPlace
    split
    next hlt =>
      refine List.pairwise_cons.2 ⟨fun j hj => ?_, h⟩
      rcases List.mem_cons.1 hj with rfl | hj
      · exact hlt
      · exact Nat.lt_trans hlt (hk j hj)
    next hge =>
      split
      · exact h
      next hne =>
        refine List.pairwise_cons.2 ⟨fun j hj => ?_, ih hks⟩
        rcases mem_insertPlace.1 hj with rfl | hj
        · omega
        · exact hk j hj

/-! ### Places compared one by one -/

/-- The first list comes first, or they are the same: the first places that differ decide. -/
def LexLe (a b : List Nat) : Prop :=
  a = b ∨ List.Lex (· < ·) a b

theorem lexLe_nil : ∀ b, LexLe [] b
  | [] => .inl rfl
  | _ :: _ => .inr .nil

theorem LexLe.cons {a b : List Nat} (h : LexLe a b) (i : Nat) : LexLe (i :: a) (i :: b) := by
  rcases h with rfl | h
  · exact .inl rfl
  · exact .inr (.cons h)

theorem lexLe_of_lt {i k : Nat} (h : i < k) (a b : List Nat) : LexLe (i :: a) (k :: b) :=
  .inr (.rel h)

namespace Settling

/-! ### Counting down -/

@[simp] theorem settled_release (p : Settling) (d : Nat) : (p.release d).settled = p.settled := by
  unfold release
  split <;> rfl

theorem release_of_waiting {p : Settling} {d k : Nat} (h : p.waiting[d]? = some (k + 1)) :
    p.release d = { p with
      waiting := p.waiting.set d k
      ready := if k = 0 then insertPlace d p.ready else p.ready } := by
  rw [release, h]

theorem sorted_release {p : Settling} (h : p.ready.Pairwise (· < ·)) (d : Nat) :
    (p.release d).ready.Pairwise (· < ·) := by
  unfold release
  split
  · simp only
    split
    · exact sorted_insertPlace h
    · exact h
  · exact h

theorem getElem?_waiting_release {p : Settling} {d k : Nat} (h : p.waiting[d]? = some (k + 1))
    (e : Nat) : (p.release d).waiting[e]? = if e = d then some k else p.waiting[e]? := by
  have hlt : d < p.waiting.length := by
    by_contra hge
    rw [List.getElem?_eq_none (Nat.le_of_not_lt hge)] at h
    cases h
  rw [release_of_waiting h]
  by_cases he : e = d
  · rw [if_pos he, he, List.getElem?_set_self hlt]
  · rw [if_neg he, List.getElem?_set_ne (Ne.symm he)]

theorem mem_ready_release {p : Settling} {d k : Nat} (h : p.waiting[d]? = some (k + 1)) {e : Nat} :
    e ∈ (p.release d).ready ↔ e ∈ p.ready ∨ e = d ∧ k = 0 := by
  rw [release_of_waiting h]
  simp only
  split
  next h0 => rw [mem_insertPlace, or_comm, and_iff_left h0]
  next h0 => simp [h0]

/-- What becomes of places that are told, one after another, that they wait for one fewer, if they
all have been waiting. -/
theorem foldl_release {ds : List Nat} (hds : ds.Nodup) :
    ∀ {p : Settling}, (∀ d ∈ ds, ∃ k, p.waiting[d]? = some (k + 1)) →
      (∀ e, (ds.foldl release p).waiting[e]? =
        if e ∈ ds then p.waiting[e]?.map (· - 1) else p.waiting[e]?) ∧
      ∀ e, e ∈ (ds.foldl release p).ready ↔ e ∈ p.ready ∨ e ∈ ds ∧ p.waiting[e]? = some 1 := by
  induction ds with
  | nil => intro p _; simp
  | cons d ds ih =>
    intro p hp
    obtain ⟨hd, hds⟩ := List.nodup_cons.1 hds
    obtain ⟨k, hk⟩ := hp d List.mem_cons_self
    have hwait := getElem?_waiting_release hk
    have hne : ∀ e ∈ ds, e ≠ d := fun e he hed => hd (hed ▸ he)
    obtain ⟨ihwait, ihready⟩ := ih hds (p := p.release d) fun e he => by
      rw [hwait, if_neg (hne e he)]
      exact hp e (List.mem_cons_of_mem _ he)
    constructor
    · intro e
      rw [List.foldl_cons, ihwait, hwait]
      by_cases hed : e = d
      · subst hed
        simp [hd, hk]
      · simp [hed]
    · intro e
      rw [List.foldl_cons, ihready, mem_ready_release hk, hwait]
      by_cases hed : e = d
      · subst hed
        simp [hd, hk]
      · simp [hed]

/-! ### The invariant -/

/-- The places, of `n`, that a place depends on and that are not settled. -/
def missing (deps : Nat → List Nat) (n : Nat) (settled : List Nat) (d : Nat) : List Nat :=
  (List.range n).filter fun j => (deps d).contains j && !settled.contains j

variable {deps : Nat → List Nat} {n : Nat}

theorem mem_missing {settled : List Nat} {d j : Nat} :
    j ∈ missing deps n settled d ↔ j < n ∧ j ∈ deps d ∧ j ∉ settled := by
  simp [missing]

theorem nodup_missing (settled : List Nat) (d : Nat) : (missing deps n settled d).Nodup :=
  List.nodup_range.filter _

theorem missing_cons (i : Nat) (settled : List Nat) (d : Nat) :
    missing deps n (i :: settled) d = (missing deps n settled d).erase i := by
  rw [(nodup_missing settled d).erase_eq_filter, missing, missing, List.filter_filter]
  refine List.filter_congr fun j _ => ?_
  by_cases hj : j = i
  · simp [hj]
  · simp [hj]

theorem missing_eq_nil_of_subset {settled more : List Nat} {d : Nat} (hsub : settled ⊆ more)
    (h : missing deps n settled d = []) : missing deps n more d = [] := by
  refine List.eq_nil_iff_forall_not_mem.2 fun j hj => ?_
  obtain ⟨hlt, hdep, hnot⟩ := mem_missing.1 hj
  have hm : j ∈ missing deps n settled d := mem_missing.2 ⟨hlt, hdep, fun hs => hnot (hsub hs)⟩
  rw [h] at hm
  exact List.not_mem_nil hm

theorem mem_dependents {i d : Nat} : d ∈ dependents deps n i ↔ d < n ∧ i ∈ deps d := by
  simp [dependents]

/-- Everything is counted: what each place waits for, what is ready, and that what is settled stands
behind what it depends on. -/
structure Counted (deps : Nat → List Nat) (n : Nat) (p : Settling) : Prop where
  waiting : ∀ d, p.waiting[d]? = if d < n then some (missing deps n p.settled d).length else none
  sorted : p.ready.Pairwise (· < ·)
  ready : ∀ i, i ∈ p.ready ↔ i < n ∧ i ∉ p.settled ∧ missing deps n p.settled i = []
  nodup : p.settled.Nodup
  lt : ∀ i ∈ p.settled, i < n
  behind : ∀ front i back, p.settled = front ++ i :: back → missing deps n back i = []

theorem counted_start : (start deps n).Counted deps n := by
  have hmissing : ∀ d, ((List.range n).filter fun j => (deps d).contains j) =
      missing deps n [] d := by
    intro d
    simp [missing]
  have hwaiting : ∀ d, (start deps n).waiting[d]? =
      if d < n then some (missing deps n [] d).length else none := by
    intro d
    simp only [start, hmissing, List.getElem?_map]
    by_cases hd : d < n
    · rw [List.getElem?_range hd, if_pos hd]
      rfl
    · rw [List.getElem?_eq_none (by simpa using hd), if_neg hd]
      rfl
  refine ⟨hwaiting, List.pairwise_lt_range.filter _, fun i => ?_, List.nodup_nil, by simp [start],
    by simp [start]⟩
  have hready : (start deps n).ready =
      (List.range n).filter fun d => (start deps n).waiting[d]? == some 0 := rfl
  rw [hready, List.mem_filter, List.mem_range, hwaiting]
  refine and_congr_right fun hi => ?_
  rw [if_pos hi]
  simp [start]

/-- A place that is told to count down has something to count. -/
theorem Counted.waiting_pos {p : Settling} (h : p.Counted deps n) {i : Nat} (hi : i ∈ p.ready)
    {d : Nat} (hd : d ∈ dependents deps n i) : ∃ k, p.waiting[d]? = some (k + 1) := by
  obtain ⟨hlt, hdep⟩ := mem_dependents.1 hd
  obtain ⟨hin, hnot, -⟩ := (h.ready i).1 hi
  have hpos := List.length_pos_of_mem (mem_missing.2 ⟨hin, hdep, hnot⟩)
  exact ⟨(missing deps n p.settled d).length - 1, by rw [h.waiting, if_pos hlt]; congr 1; omega⟩

theorem settled_foldl_release (ds : List Nat) (p : Settling) :
    (ds.foldl release p).settled = p.settled := by
  induction ds generalizing p with
  | nil => rfl
  | cons d ds ih => rw [List.foldl_cons, ih, settled_release]

theorem sorted_foldl_release {ds : List Nat} {p : Settling} (h : p.ready.Pairwise (· < ·)) :
    (ds.foldl release p).ready.Pairwise (· < ·) := by
  induction ds generalizing p with
  | nil => exact h
  | cons d ds ih => exact ih (sorted_release h d)

/-- A settled place misses nothing. -/
theorem Counted.missing_of_settled {p : Settling} (h : p.Counted deps n) {i : Nat}
    (hi : i ∈ p.settled) : missing deps n p.settled i = [] := by
  obtain ⟨front, back, he⟩ := List.append_of_mem hi
  refine missing_eq_nil_of_subset (fun j hj => ?_) (h.behind front i back he)
  rw [he]
  exact List.mem_append_right _ (List.mem_cons_of_mem _ hj)

/-- What a step does: the first ready place is settled, and those that waited for it alone become
ready. -/
theorem step_eq_some_iff {dependents : Nat → List Nat} {p q : Settling} :
    p.step dependents = some q ↔ ∃ i ready, p.ready = i :: ready ∧
      q = (dependents i).foldl release { p with ready, settled := i :: p.settled } := by
  unfold Settling.step
  split
  next h => simp [h]
  next i ready h => simp [h, eq_comm]

/-- Settling the next place takes no counter below zero: whatever place is told to count down still
has something to count then. -/
def CountsDown (dependents : Nat → List Nat) (p : Settling) : Prop :=
  ∀ i ready, p.ready = i :: ready → ∀ before d after, dependents i = before ++ d :: after →
    ∃ k, (before.foldl release { p with ready, settled := i :: p.settled }).waiting[d]? =
      some (k + 1)

theorem nodup_dependents (i : Nat) : (dependents deps n i).Nodup :=
  List.nodup_range.filter _

theorem Counted.countsDown {p : Settling} (h : p.Counted deps n) :
    p.CountsDown (dependents deps n) := by
  intro i ready hready before d after he
  have hi : i ∈ p.ready := hready ▸ List.mem_cons_self
  have hpos : ∀ e ∈ before ++ d :: after, ∃ k, p.waiting[e]? = some (k + 1) := fun e hm =>
    h.waiting_pos hi (he ▸ hm)
  obtain ⟨hbefore, -, hdisjoint⟩ := List.nodup_append.1 (he ▸ nodup_dependents i)
  have hd : d ∉ before := fun hm => hdisjoint d hm d List.mem_cons_self rfl
  obtain ⟨hwaiting, -⟩ := foldl_release hbefore
    (p := { p with ready, settled := i :: p.settled }) fun e hm =>
      hpos e (List.mem_append_left _ hm)
  rw [hwaiting, if_neg hd]
  exact hpos d (by simp)

theorem settled_of_step {dependents : Nat → List Nat} {p q : Settling}
    (h : p.step dependents = some q) : ∃ i ∈ p.ready, q.settled = i :: p.settled := by
  obtain ⟨i, ready, hready, rfl⟩ := step_eq_some_iff.1 h
  exact ⟨i, hready ▸ List.mem_cons_self, settled_foldl_release _ _⟩

/-- What waits for a ready place is told when it is settled. -/
theorem Counted.mem_missing_iff {p : Settling} (h : p.Counted deps n) {i d : Nat}
    (hi : i ∈ p.ready) (hd : d < n) :
    i ∈ missing deps n p.settled d ↔ d ∈ dependents deps n i := by
  obtain ⟨hin, hnot, -⟩ := (h.ready i).1 hi
  rw [mem_missing, mem_dependents]
  exact ⟨fun hm => ⟨hd, hm.2.1⟩, fun hm => ⟨hin, hm.2, hnot⟩⟩

/-- After a step the counters count what is then missing. -/
theorem Counted.waiting_of_step {p q : Settling} (h : p.Counted deps n)
    (hstep : p.step (dependents deps n) = some q) (d : Nat) :
    q.waiting[d]? = if d < n then some (missing deps n q.settled d).length else none := by
  obtain ⟨i, ready, hready, rfl⟩ := step_eq_some_iff.1 hstep
  have hi : i ∈ p.ready := hready ▸ List.mem_cons_self
  obtain ⟨hwaiting, -⟩ := foldl_release (nodup_dependents i)
    (p := { p with ready, settled := i :: p.settled }) fun d hd => h.waiting_pos hi hd
  rw [hwaiting, settled_foldl_release, missing_cons, h.waiting]
  by_cases hd : d < n
  · by_cases hdep : d ∈ dependents deps n i
    · have hm := (h.mem_missing_iff hi hd).2 hdep
      rw [if_pos hdep, if_pos hd, if_pos hd, List.length_erase_of_mem hm]
      rfl
    · rw [if_neg hdep, if_pos hd, if_pos hd,
        List.erase_of_not_mem fun hm => hdep ((h.mem_missing_iff hi hd).1 hm)]
  · rw [if_neg hd, if_neg hd, Option.map_none, ite_self]

/-- After a step what is ready misses nothing: either it was ready, or the place that is settled was
all it missed. -/
theorem Counted.ready_of_step {p q : Settling} (h : p.Counted deps n)
    (hstep : p.step (dependents deps n) = some q) (e : Nat) :
    e ∈ q.ready ↔ e < n ∧ e ∉ q.settled ∧ missing deps n q.settled e = [] := by
  obtain ⟨i, ready, hready, rfl⟩ := step_eq_some_iff.1 hstep
  have hi : i ∈ p.ready := hready ▸ List.mem_cons_self
  have himissing := ((h.ready i).1 hi).2.2
  obtain ⟨-, hmem⟩ := foldl_release (nodup_dependents i)
    (p := { p with ready, settled := i :: p.settled }) fun d hd => h.waiting_pos hi hd
  rw [hmem, settled_foldl_release, missing_cons, List.mem_cons, not_or, h.waiting]
  constructor
  · rintro (he | ⟨hdep, hone⟩)
    · obtain ⟨hlt, hnot, hnil⟩ := (h.ready e).1 (hready ▸ List.mem_cons_of_mem _ he)
      have hne : e ≠ i := Nat.ne_of_gt ((List.pairwise_cons.1 (hready ▸ h.sorted)).1 e he)
      exact ⟨hlt, ⟨hne, hnot⟩, by rw [hnil, List.erase_nil]⟩
    · have hlt := (mem_dependents.1 hdep).1
      rw [if_pos hlt, Option.some.injEq] at hone
      refine ⟨hlt, ⟨?_, fun hs => ?_⟩, ?_⟩
      · rintro rfl
        simp [himissing] at hone
      · simp [h.missing_of_settled hs] at hone
      · have hm := (h.mem_missing_iff hi hlt).2 hdep
        rw [← List.length_eq_zero_iff, List.length_erase_of_mem hm, hone]
  · rintro ⟨hlt, ⟨hne, hnot⟩, hnil⟩
    by_cases hdep : i ∈ missing deps n p.settled e
    · right
      refine ⟨(h.mem_missing_iff hi hlt).1 hdep, ?_⟩
      have hlength := List.length_erase_of_mem hdep
      have hpos := List.length_pos_of_mem hdep
      rw [hnil, List.length_nil] at hlength
      rw [if_pos hlt]
      congr 1
      omega
    · left
      rw [List.erase_of_not_mem hdep] at hnil
      have hm : e ∈ p.ready := (h.ready e).2 ⟨hlt, hnot, hnil⟩
      rw [hready] at hm
      exact (List.mem_cons.1 hm).resolve_left hne

theorem sorted_of_step {dependents : Nat → List Nat} {p q : Settling}
    (h : p.ready.Pairwise (· < ·)) (hstep : p.step dependents = some q) :
    q.ready.Pairwise (· < ·) := by
  obtain ⟨i, ready, hready, rfl⟩ := step_eq_some_iff.1 hstep
  exact sorted_foldl_release (List.pairwise_cons.1 (hready ▸ h)).2

/-- **Settling one place keeps everything counted.** -/
theorem Counted.step {p q : Settling} (h : p.Counted deps n)
    (hstep : p.step (dependents deps n) = some q) : q.Counted deps n := by
  obtain ⟨i, hi, hsettled⟩ := settled_of_step hstep
  obtain ⟨hin, hinot, himissing⟩ := (h.ready i).1 hi
  refine ⟨h.waiting_of_step hstep, sorted_of_step h.sorted hstep, h.ready_of_step hstep, ?_, ?_, ?_⟩
  · rw [hsettled]
    exact List.nodup_cons.2 ⟨hinot, h.nodup⟩
  · rw [hsettled]
    exact List.forall_mem_cons.2 ⟨hin, h.lt⟩
  · rw [hsettled]
    intro front x back he
    cases front with
    | nil =>
      obtain ⟨rfl, rfl⟩ := List.cons.inj he
      exact himissing
    | cons y front =>
      exact h.behind front x back (List.cons.inj he).2

/-- Where nothing is ready, a place that is not settled depends on another one that is not. -/
theorem Counted.exists_unsettled {p : Settling} (h : p.Counted deps n) (hready : p.ready = [])
    {i : Nat} (hi : i < n) (hnot : i ∉ p.settled) : ∃ j < n, j ∉ p.settled ∧ j ∈ deps i := by
  have hne : missing deps n p.settled i ≠ [] := by
    intro hnil
    have hm : i ∈ p.ready := (h.ready i).2 ⟨hi, hnot, hnil⟩
    rw [hready] at hm
    exact List.not_mem_nil hm
  obtain ⟨j, hj⟩ := List.exists_mem_of_ne_nil _ hne
  obtain ⟨hjn, hdep, hjnot⟩ := mem_missing.1 hj
  exact ⟨j, hjn, hjnot, hdep⟩

/-! ### Runs -/

/-- The state is passed on the way from another. -/
abbrev Reaches (dependents : Nat → List Nat) : Settling → Settling → Prop :=
  Relation.ReflTransGen fun p q => p.step dependents = some q

/-- **On every run everything stays counted.** -/
theorem Counted.reaches {p q : Settling} (h : p.Counted deps n)
    (hr : Reaches (dependents deps n) p q) : q.Counted deps n := by
  induction hr with
  | refl => exact h
  | tail _ hstep ih => exact ih.step hstep

/-- A run ends in a state in which nothing is ready. -/
theorem exists_run (dependents : Nat → List Nat) (p : Settling) :
    ∃ q, Reaches dependents p q ∧ q.ready = [] ∧ p.run dependents = q.settled.reverse := by
  fun_induction run dependents p with
  | case1 p hnone =>
    refine ⟨p, .refl, ?_, rfl⟩
    cases hready : p.ready with
    | nil => rfl
    | cons i ready => simp [Settling.step, hready] at hnone
  | case2 p q hstep ih =>
    obtain ⟨r, hr, hready, he⟩ := ih
    exact ⟨r, hr.head hstep, hready, he⟩

/-- A run goes on from what is settled. -/
theorem exists_more (dependents : Nat → List Nat) (p : Settling) :
    ∃ more, p.run dependents = p.settled.reverse ++ more := by
  fun_induction run dependents p with
  | case1 p _ => exact ⟨[], (List.append_nil _).symm⟩
  | case2 p q hstep ih =>
    obtain ⟨more, he⟩ := ih
    obtain ⟨i, -, hsettled⟩ := settled_of_step hstep
    refine ⟨i :: more, ?_⟩
    rw [he, hsettled, List.reverse_cons, List.append_assoc]
    rfl

/-- **A run takes the least order**: places that go on from what is settled, each behind what it
depends on, are not less than those that the run goes on with. -/
theorem exists_more_le {p : Settling} (h : p.Counted deps n) {rest : List Nat}
    (hcover : ∀ i < n, i ∈ p.settled ∨ i ∈ rest)
    (hrest : ∀ front i back, rest = front ++ i :: back →
      i < n ∧ i ∉ p.settled ∧ i ∉ front ∧ missing deps n (front ++ p.settled) i = []) :
    ∃ more, p.run (dependents deps n) = p.settled.reverse ++ more ∧ LexLe more rest := by
  fun_induction run (dependents deps n) p generalizing rest with
  | case1 p _ => exact ⟨[], (List.append_nil _).symm, lexLe_nil rest⟩
  | case2 p q hstep ih =>
    have hq := h.step hstep
    obtain ⟨i, ready, hready, he⟩ := step_eq_some_iff.1 hstep
    have hsettled : q.settled = i :: p.settled := by rw [he, settled_foldl_release]
    have hi : i ∈ p.ready := hready ▸ List.mem_cons_self
    obtain ⟨hin, hinot, -⟩ := (h.ready i).1 hi
    cases rest with
    | nil => exact absurd (hcover i hin) (by simpa using hinot)
    | cons k rest =>
      obtain ⟨hkn, hknot, -, hkmissing⟩ := hrest [] k rest rfl
      have hk : k ∈ i :: ready := hready ▸ (h.ready k).2 ⟨hkn, hknot, hkmissing⟩
      rcases List.mem_cons.1 hk with rfl | hk
      · -- Both go on with the same place, and the rest is a case of the same statement.
        have hcover' : ∀ j < n, j ∈ q.settled ∨ j ∈ rest := by
          intro j hj
          have hj := hcover j hj
          rw [hsettled]
          simp only [List.mem_cons] at hj ⊢
          tauto
        have hrest' : ∀ front j back, rest = front ++ j :: back →
            j < n ∧ j ∉ q.settled ∧ j ∉ front ∧ missing deps n (front ++ q.settled) j = [] := by
          intro front j back hsplit
          obtain ⟨hjn, hjnot, hjfront, hjmissing⟩ :=
            hrest (k :: front) j back (by rw [hsplit]; rfl)
          rw [List.mem_cons, not_or] at hjfront
          refine ⟨hjn, ?_, hjfront.2, missing_eq_nil_of_subset (fun x hx => ?_) hjmissing⟩
          · rw [hsettled, List.mem_cons, not_or]
            exact ⟨hjfront.1, hjnot⟩
          · rw [hsettled]
            simp only [List.mem_append, List.mem_cons] at hx ⊢
            tauto
        obtain ⟨more, hmore, hle⟩ := ih hq hcover' hrest'
        refine ⟨k :: more, ?_, hle.cons k⟩
        rw [hmore, hsettled, List.reverse_cons, List.append_assoc]
        rfl
      · obtain ⟨more, hmore⟩ := exists_more (dependents deps n) q
        have hlt : i < k := (List.pairwise_cons.1 (hready ▸ h.sorted)).1 k hk
        refine ⟨i :: more, ?_, lexLe_of_lt hlt more rest⟩
        rw [hmore, hsettled, List.reverse_cons, List.append_assoc]
        rfl

end Settling

/-! ### Settling from the start -/

/-- How places are split into those that are settled and the rest. -/
structure Splits (deps : Nat → List Nat) (n : Nat) (settled rest : List Nat) : Prop where
  perm : (settled ++ rest).Perm (List.range n)
  /-- A settled place stands behind those it depends on. -/
  behind : ∀ front i back, settled = front ++ i :: back → ∀ j ∈ deps i, j ∈ front
  /-- A place that is not settled depends on another one that is not. -/
  stuck : ∀ i ∈ rest, ∃ j ∈ rest, j ∈ deps i
  /-- An order of all places in which each stands behind those it depends on is not less. -/
  least : ∀ other, other.Perm (List.range n) →
    (∀ front i back, other = front ++ i :: back → ∀ j ∈ deps i, j ∈ front) → LexLe settled other

variable {deps : Nat → List Nat} {n : Nat}

theorem missing_eq_nil_iff (hlt : ∀ i, ∀ j ∈ deps i, j < n) {settled : List Nat} {i : Nat} :
    Settling.missing deps n settled i = [] ↔ ∀ j ∈ deps i, j ∈ settled := by
  rw [List.eq_nil_iff_forall_not_mem]
  simp only [Settling.mem_missing, not_and, not_not]
  exact ⟨fun h j hj => h j (hlt i j hj) hj, fun h j _ hj => h j hj⟩

/-- **Settling from the start takes the least order** of all those in which each place stands behind
those it depends on. -/
theorem run_start_le (hlt : ∀ i, ∀ j ∈ deps i, j < n) {other : List Nat}
    (hother : other.Perm (List.range n))
    (hbehind : ∀ front i back, other = front ++ i :: back → ∀ j ∈ deps i, j ∈ front) :
    LexLe ((Settling.start deps n).run (dependents deps n)) other := by
  have hnodup : other.Nodup := hother.nodup_iff.2 List.nodup_range
  have hcover : ∀ i < n, i ∈ (Settling.start deps n).settled ∨ i ∈ other := fun i hi =>
    .inr (hother.mem_iff.2 (List.mem_range.2 hi))
  have hplaced : ∀ front i back, other = front ++ i :: back →
      i < n ∧ i ∉ (Settling.start deps n).settled ∧ i ∉ front ∧
        Settling.missing deps n (front ++ (Settling.start deps n).settled) i = [] := by
    intro front i back he
    refine ⟨?_, by simp [Settling.start], ?_, (missing_eq_nil_iff hlt).2 fun j hj => ?_⟩
    · rw [← List.mem_range, ← hother.mem_iff, he]
      simp
    · rw [he] at hnodup
      exact fun hm => (List.nodup_append.1 hnodup).2.2 _ hm _ (by simp) rfl
    · exact List.mem_append_left _ (hbehind front i back he j hj)
  obtain ⟨more, hmore, hle⟩ := Settling.exists_more_le Settling.counted_start hcover hplaced
  rw [hmore]
  exact hle

/-- **What settling gives.** -/
theorem splits_settle (hlt : ∀ i, ∀ j ∈ deps i, j < n) :
    Splits deps n (settle deps n).1 (settle deps n).2 := by
  have hstart : (Settling.start deps n).Counted deps n := Settling.counted_start
  obtain ⟨q, hr, hready, hrun⟩ :=
    Settling.exists_run (dependents deps n) (Settling.start deps n)
  have hq := hstart.reaches hr
  have hsettled : (settle deps n).1 = q.settled.reverse := hrun
  have hrest : (settle deps n).2 = (List.range n).filter (!q.settled.reverse.contains ·) := by
    rw [← hsettled]
    rfl
  have hmem : ∀ i, i ∈ (settle deps n).2 ↔ i < n ∧ i ∉ q.settled := by
    intro i
    rw [hrest]
    simp
  refine ⟨?_, ?_, ?_, ?_⟩
  · have hperm : (settle deps n).1.Perm
        ((List.range n).filter (q.settled.reverse.contains ·)) := by
      rw [hsettled, List.perm_ext_iff_of_nodup (List.nodup_reverse.2 hq.nodup)
        (List.nodup_range.filter _)]
      intro i
      simpa using fun hi => hq.lt i hi
    rw [hrest]
    exact (hperm.append_right _).trans (List.filter_append_perm _ _)
  · intro front i back he j hj
    have he' : q.settled = back.reverse ++ i :: front.reverse := by
      rw [← List.reverse_reverse q.settled, ← hsettled, he]
      simp
    exact List.mem_reverse.1 ((missing_eq_nil_iff hlt).1 (hq.behind _ _ _ he') j hj)
  · intro i hi
    obtain ⟨hin, hnot⟩ := (hmem i).1 hi
    obtain ⟨j, hjn, hjnot, hdep⟩ := hq.exists_unsettled hready hin hnot
    exact ⟨j, (hmem j).2 ⟨hjn, hjnot⟩, hdep⟩
  · intro other hother hbehind
    exact run_start_le hlt hother hbehind

/-- How the rest is arranged does not matter. -/
theorem Splits.of_perm {settled rest rest' : List Nat} (h : Splits deps n settled rest)
    (hperm : rest'.Perm rest) : Splits deps n settled rest' := by
  refine ⟨(hperm.append_left settled).trans h.perm, h.behind, fun i hi => ?_, h.least⟩
  obtain ⟨j, hj, hdep⟩ := h.stuck i (hperm.mem_iff.1 hi)
  exact ⟨j, hperm.mem_iff.2 hj, hdep⟩

end SchemaPlan
