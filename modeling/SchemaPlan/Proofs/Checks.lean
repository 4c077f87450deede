import Mathlib.Data.List.Forall2
import Mathlib.Data.List.Induction
import Mathlib.Data.List.Nodup
import SchemaPlan.Model.Validate

/-!
# Computations that may fail

A pass of the planner gives a result or an error, and most of what is proved about plans starts from
"it gave a result".  This file says what that means for the ways in which passes are put together: a
computation followed by another (`bind_eq_ok`), one computation for each element of a list
(`mapM_eq_ok`), and the checks of `Model/Validate.lean`.

A check that looks at each element in the light of those before it succeeds when it does at every
split of the list (`checkEach_eq_ok`).  The most frequent use is to find that no name is repeated, so
`nodup_map_iff_split` says the same of lists without repetition.  In such a list a look-up by name
finds the element it was asked for (`find?_eq_some_of_nodup`, `lookup_eq_some_of_nodup`).
-/

namespace SchemaPlan

section Outcomes

variable {ε α β γ : Type}

theorem bind_eq_ok {x : Except ε α} {f : α → Except ε β} {b : β} :
    (x >>= f) = .ok b ↔ ∃ a, x = .ok a ∧ f a = .ok b := by
  cases x with
  | error e => simp [bind, Except.bind]
  | ok a => simp [bind, Except.bind]

theorem bind_eq_error {x : Except ε α} {f : α → Except ε β} {e : ε} :
    x >>= f = .error e ↔ x = .error e ∨ ∃ a, x = .ok a ∧ f a = .error e := by
  cases x with
  | error e => simp [bind, Except.bind]
  | ok a => simp [bind, Except.bind]

theorem pure_eq_ok {a b : α} : (pure a : Except ε α) = .ok b ↔ a = b := by
  simp [pure, Except.pure]

theorem discard_eq_ok {x : Except ε α} {u : PUnit} : discard x = .ok u ↔ ∃ a, x = .ok a := by
  cases x with
  | error e => simp [discard, Functor.discard, Functor.mapConst, Except.map]
  | ok a => simp [discard, Functor.discard, Functor.mapConst, Except.map]

/-! ### One computation for each element -/

/-- **A list of computations succeeds when each does**, with the results in the same order. -/
theorem mapM_eq_ok {f : α → Except ε β} : ∀ {xs : List α} {ys : List β},
    xs.mapM f = .ok ys ↔ List.Forall₂ (fun x y => f x = .ok y) xs ys := by
  intro xs
  induction xs with
  | nil =>
    intro ys
    rw [List.mapM_nil, pure_eq_ok, List.forall₂_nil_left_iff, eq_comm]
  | cons x xs ih =>
    intro ys
    simp only [List.mapM_cons, bind_eq_ok, pure_eq_ok, ih, List.forall₂_cons_left_iff]
    constructor
    · rintro ⟨y, hy, rest, hrest, rfl⟩
      exact ⟨y, rest, hy, hrest, rfl⟩
    · rintro ⟨y, rest, hy, hrest, rfl⟩
      exact ⟨y, hy, rest, hrest, rfl⟩

theorem mapM_eq_ok_map {f : α → Except ε β} {g : α → β} {xs : List α}
    (h : ∀ x ∈ xs, f x = .ok (g x)) : xs.mapM f = .ok (xs.map g) := by
  rw [mapM_eq_ok, List.forall₂_map_right_iff, List.forall₂_same]
  exact h

theorem exists_mem_of_mapM {f : α → Except ε β} {xs : List α} {ys : List β}
    (h : xs.mapM f = .ok ys) {x : α} (hx : x ∈ xs) : ∃ y ∈ ys, f x = .ok y := by
  obtain ⟨i, hi, rfl⟩ := List.mem_iff_getElem.1 hx
  have hf := mapM_eq_ok.1 h
  have hi' : i < ys.length := by rw [← hf.length_eq]; exact hi
  exact ⟨ys[i], List.getElem_mem hi', hf.get hi hi'⟩

theorem exists_source_of_mapM {f : α → Except ε β} {xs : List α} {ys : List β}
    (h : xs.mapM f = .ok ys) {y : β} (hy : y ∈ ys) : ∃ x ∈ xs, f x = .ok y := by
  obtain ⟨i, hi, rfl⟩ := List.mem_iff_getElem.1 hy
  have hf := mapM_eq_ok.1 h
  have hi' : i < xs.length := by rw [hf.length_eq]; exact hi
  exact ⟨xs[i], List.getElem_mem hi', hf.get hi' hi⟩

/-- When each result can only be what `g` gives, so are the results together. -/
theorem eq_map_of_mapM {f : α → Except ε β} {g : α → β} {xs : List α} {ys : List β}
    (h : xs.mapM f = .ok ys) (hf : ∀ x ∈ xs, ∀ y, f x = .ok y → y = g x) : ys = xs.map g := by
  have hg : ∀ x ∈ xs, f x = .ok (g x) := by
    intro x hx
    obtain ⟨y, _, hy⟩ := exists_mem_of_mapM h hx
    rw [← hf x hx y hy, hy]
  rw [mapM_eq_ok_map hg] at h
  exact (Except.ok.inj h).symm

/-- Values read off the results are those read off the elements that they come from. -/
theorem flatMap_eq_of_mapM {f : α → Except ε β} {g : β → List γ} {g' : α → List γ} {xs : List α}
    {ys : List β} (h : xs.mapM f = .ok ys) (hf : ∀ x ∈ xs, ∀ y, f x = .ok y → g y = g' x) :
    ys.flatMap g = xs.flatMap g' := by
  have h' := mapM_eq_ok.1 h
  clear h
  induction h' with
  | nil => rfl
  | @cons x y xs ys hxy _ ih =>
    rw [List.flatMap_cons, List.flatMap_cons, hf x List.mem_cons_self y hxy,
      ih fun x hx => hf x (List.mem_cons_of_mem _ hx)]

end Outcomes

/-! ### Checks -/

section Checks

variable {α β : Type}

theorem ensure_eq_ok {b : Bool} {e : SchemaError} {u : Unit} :
    ensure b e = .ok u ↔ b = true := by
  cases b <;> simp [ensure]

theorem checkFrom_eq_ok {check : List α → α → Except SchemaError Unit} :
    ∀ {xs before : List α} {u : Unit}, checkFrom check before xs = .ok u ↔
      ∀ front x back, xs = front ++ x :: back → check (front.reverse ++ before) x = .ok () := by
  intro xs
  induction xs with
  | nil => intro before u; simp [checkFrom]
  | cons x xs ih =>
    intro before u
    simp only [checkFrom, bind_eq_ok, ih]
    constructor
    · rintro ⟨_, hx, hxs⟩ front y back he
      cases front with
      | nil =>
        obtain ⟨rfl, rfl⟩ := List.cons.inj he
        exact hx
      | cons z front =>
        obtain ⟨rfl, rfl⟩ := List.cons.inj he
        simpa using hxs front y back rfl
    · intro h
      refine ⟨(), h [] x xs rfl, fun front y back he => ?_⟩
      simpa using h (x :: front) y back (by rw [he]; rfl)

/-- **A check in turn succeeds when it does at every split**, with what stands in front. -/
theorem checkEach_eq_ok {check : List α → α → Except SchemaError Unit} {xs : List α} {u : Unit} :
    checkEach xs check = .ok u ↔
      ∀ front x back, xs = front ++ x :: back → check front.reverse x = .ok () := by
  simp only [checkEach, checkFrom_eq_ok, List.append_nil]

/-- Elements that are made of others are checked in turn as these are checked by themselves, if what
stands in front makes no difference. -/
theorem checkEach_map {check : List β → β → Except SchemaError Unit} {f : α → β}
    {checkOne : α → Except SchemaError Unit} {xs : List α}
    (h : ∀ front x back, xs = front ++ x :: back →
      check (front.map f).reverse (f x) = checkOne x) :
    checkEach (xs.map f) check = checkAll xs checkOne := by
  have hfrom : ∀ front back before, xs = front ++ back →
      checkFrom check (front.map f).reverse (back.map f) =
        checkFrom (fun _ x => checkOne x) before back := by
    intro front back
    induction back generalizing front with
    | nil => intro before _; rfl
    | cons x back ih =>
      intro before he
      rw [List.map_cons, checkFrom, checkFrom, h front x back he]
      have hrest := ih (front ++ [x]) (x :: before) (by rw [he]; simp)
      rw [List.map_append, List.reverse_append] at hrest
      exact congrArg _ (funext fun _ => hrest)
  exact hfrom [] xs [] rfl

theorem checkAll_eq_ok {check : α → Except SchemaError Unit} {xs : List α} {u : Unit} :
    checkAll xs check = .ok u ↔ ∀ x ∈ xs, check x = .ok () := by
  simp only [checkAll, checkEach_eq_ok]
  constructor
  · intro h x hx
    obtain ⟨front, back, he⟩ := List.append_of_mem hx
    exact h front x back he
  · rintro h front x back rfl
    exact h x (by simp)

theorem checkFrom_eq_error {check : List α → α → Except SchemaError Unit} {e : SchemaError} :
    ∀ {xs before : List α}, checkFrom check before xs = .error e ↔
      ∃ front x back, xs = front ++ x :: back ∧ checkFrom check before front = .ok () ∧
        check (front.reverse ++ before) x = .error e := by
  intro xs
  induction xs with
  | nil => intro before; simp [checkFrom]
  | cons x xs ih =>
    intro before
    rw [checkFrom]
    cases hx : check before x with
    | error e' =>
      constructor
      · intro he
        exact ⟨[], x, xs, rfl, rfl, hx.trans he⟩
      · rintro ⟨_ | ⟨y, front⟩, z, back, he, hfront, hz⟩
        · obtain ⟨rfl, rfl⟩ := List.cons.inj he
          exact hx.symm.trans hz
        · obtain ⟨rfl, rfl⟩ := List.cons.inj he
          obtain ⟨_, hy, -⟩ := bind_eq_ok.1 hfront
          cases hx.symm.trans hy
    | ok u =>
      refine ih.trans ⟨?_, ?_⟩
      · rintro ⟨front, z, back, rfl, hfront, hz⟩
        exact ⟨x :: front, z, back, rfl, bind_eq_ok.2 ⟨u, hx, hfront⟩, by simpa using hz⟩
      · rintro ⟨_ | ⟨y, front⟩, z, back, he, hfront, hz⟩
        · obtain ⟨rfl, rfl⟩ := List.cons.inj he
          cases hx.symm.trans hz
        · obtain ⟨rfl, rfl⟩ := List.cons.inj he
          obtain ⟨_, -, hfront⟩ := bind_eq_ok.1 hfront
          exact ⟨front, z, back, rfl, hfront, by simpa using hz⟩

/-- **A check in turn fails at the first that fails.** -/
theorem checkEach_eq_error {check : List α → α → Except SchemaError Unit} {xs : List α}
    {e : SchemaError} : checkEach xs check = .error e ↔ ∃ front x back, xs = front ++ x :: back ∧
      checkEach front check = .ok () ∧ check front.reverse x = .error e := by
  simp only [checkEach, checkFrom_eq_error, List.append_nil]

theorem checkAll_eq_error {check : α → Except SchemaError Unit} {xs : List α} {e : SchemaError} :
    checkAll xs check = .error e ↔ ∃ front x back, xs = front ++ x :: back ∧
      (∀ y ∈ front, check y = .ok ()) ∧ check x = .error e := by
  rw [checkAll, checkEach_eq_error]
  refine exists_congr fun front => exists_congr fun x => exists_congr fun back => ?_
  rw [show checkEach front (fun _ x => check x) = checkAll front check from rfl, checkAll_eq_ok]

/-- No value of `f` is repeated when none appears in front of itself. -/
theorem nodup_map_iff_split {f : α → β} {xs : List α} :
    (xs.map f).Nodup ↔ ∀ front x back, xs = front ++ x :: back → f x ∉ front.map f := by
  constructor
  · rintro h front x back rfl hx
    rw [List.map_append, List.nodup_append] at h
    exact h.2.2 _ hx _ (by simp) rfl
  · intro h
    induction xs using List.reverseRecOn with
    | nil => exact List.nodup_nil
    | append_singleton xs x ih =>
      rw [List.map_append, List.nodup_append]
      refine ⟨ih fun front y back he => ?_, by simp, ?_⟩
      · exact h front y (back ++ [x]) (by rw [he]; simp)
      · rintro _ ha _ hb rfl
        rw [List.map_singleton, List.mem_singleton] at hb
        exact h xs x [] rfl (hb ▸ ha)

theorem not_any_eq_true_iff [BEq β] [LawfulBEq β] {f : α → β} {xs : List α} {b : β} :
    (!xs.any fun x => f x == b) = true ↔ b ∉ xs.map f := by
  simp

/-- In a list without repeated names a look-up finds the element whose name it is given. -/
theorem find?_eq_some_of_nodup [BEq β] [LawfulBEq β] {f : α → β} {xs : List α} {x : α}
    (h : (xs.map f).Nodup) (hx : x ∈ xs) : xs.find? (fun y => f y == f x) = some x := by
  induction xs with
  | nil => simp at hx
  | cons y ys ih =>
    rw [List.map_cons, List.nodup_cons] at h
    rcases List.mem_cons.1 hx with rfl | hx
    · simp
    · have hne : f y ≠ f x := fun he => h.1 (he ▸ List.mem_map_of_mem hx)
      rw [List.find?_cons_of_neg (by simpa using hne)]
      exact ih h.2 hx

theorem lookup_eq_some_of_nodup [BEq α] [LawfulBEq α] {xs : List (α × β)} {a : α} {b : β}
    (h : (xs.map (·.1)).Nodup) (hm : (a, b) ∈ xs) : xs.lookup a = some b := by
  induction xs with
  | nil => simp at hm
  | cons x xs ih =>
    rw [List.map_cons, List.nodup_cons] at h
    rcases List.mem_cons.1 hm with rfl | hm
    · exact List.lookup_cons_self
    · have hne : a ≠ x.1 := fun he => h.1 (he ▸ List.mem_map_of_mem hm)
      rw [List.lookup_cons, beq_false_of_ne hne]
      exact ih h.2 hm

end Checks

end SchemaPlan
