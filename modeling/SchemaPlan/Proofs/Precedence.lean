import SchemaPlan.Proofs.TableConstraints

/-!
# What stands in front of what

`Precedes` compares two sorts of operations of a plan, and two things make such comparisons small.

A plan is read off a draft place by place, so operations that are planned at one place only stand in
the plan as they do there (`Draft.precedes_toPlan`).  And a place is mostly filled table by table: its
operations are in order when the tables are, which is a matter of two tables at a time
(`precedes_flatMap`).
-/

namespace SchemaPlan

section Precedes

variable {former latter : Op → Prop} {ops front back : List Op} {α : Type}

/-- Operations are in order when no two are the wrong way round, and none is of both sorts. -/
theorem precedes_iff_pairwise :
    Precedes former latter ops ↔
      (∀ op ∈ ops, latter op → ¬ former op) ∧ ops.Pairwise fun a b => latter a → ¬ former b := by
  constructor
  · refine fun h => ⟨fun op hop hlatter hformer => ?_, ?_⟩
    · obtain ⟨i, hi⟩ := List.mem_iff_getElem?.1 hop
      exact absurd (h i i op op hi hi hformer hlatter) (Nat.lt_irrefl i)
    · refine List.pairwise_iff_getElem.2 fun i j hi hj hij hlatter hformer => ?_
      have hji := h j i _ _ (List.getElem?_eq_getElem hj) (List.getElem?_eq_getElem hi) hformer
        hlatter
      omega
  · rintro ⟨hboth, hpairs⟩ i j a b ha hb hformer hlatter
    obtain ⟨hi, rfl⟩ := List.getElem?_eq_some_iff.1 ha
    obtain ⟨hj, rfl⟩ := List.getElem?_eq_some_iff.1 hb
    rcases Nat.lt_trichotomy i j with hij | rfl | hji
    · exact hij
    · exact absurd hformer (hboth _ (List.getElem_mem hi) hlatter)
    · exact absurd hformer (List.pairwise_iff_getElem.1 hpairs j i hj hi hji hlatter)

/-- Operations of one sort alone are in order. -/
theorem precedes_of_not_former (h : ∀ op ∈ ops, ¬ former op) : Precedes former latter ops :=
  fun _ _ _ _ ha _ hformer _ => absurd hformer (h _ (List.mem_of_getElem? ha))

theorem precedes_of_not_latter (h : ∀ op ∈ ops, ¬ latter op) : Precedes former latter ops :=
  fun _ _ _ _ _ hb _ hlatter => absurd hlatter (h _ (List.mem_of_getElem? hb))

theorem precedes_append_iff :
    Precedes former latter (front ++ back) ↔ Precedes former latter front ∧
      Precedes former latter back ∧ ∀ a ∈ front, ∀ b ∈ back, latter a → ¬ former b := by
  simp only [precedes_iff_pairwise, List.forall_mem_append, List.pairwise_append]
  tauto

/-- Operations of neither sort do not matter. -/
theorem precedes_filter_iff {keep : Op → Bool} (hformer : ∀ op, former op → keep op = true)
    (hlatter : ∀ op, latter op → keep op = true) :
    Precedes former latter (ops.filter keep) ↔ Precedes former latter ops := by
  rw [precedes_iff_pairwise, precedes_iff_pairwise, List.pairwise_filter]
  refine and_congr ?_ ?_
  · refine forall_congr' fun op => ?_
    rw [List.mem_filter]
    exact ⟨fun h hop hl => h ⟨hop, hlatter op hl⟩ hl, fun h hop => h hop.1⟩
  · constructor
    · exact List.Pairwise.imp fun {a b} h hl hf => h (hlatter a hl) (hformer b hf) hl hf
    · exact List.Pairwise.imp fun {a b} h _ _ => h

/-- Among operations of one kind only that kind matters. -/
theorem precedes_filter_kind_iff {kind : OpKind} (hformer : ∀ op, former op → op.kind = kind)
    (hlatter : ∀ op, latter op → op.kind = kind) :
    Precedes former latter (ops.filter (·.kind == kind)) ↔ Precedes former latter ops :=
  precedes_filter_iff (fun op hop => beq_iff_eq.2 (hformer op hop)) fun op hop =>
    beq_iff_eq.2 (hlatter op hop)

/-- None of the operations is of a kind that they are not of. -/
theorem OfKinds.filter_eq_nil {kinds : List OpKind} (h : OfKinds kinds ops) (kind : OpKind)
    (hkind : kind ∉ kinds) : ops.filter (·.kind == kind) = [] := by
  refine List.filter_eq_nil_iff.2 fun op hop he => hkind ?_
  rw [← eq_of_beq he]
  exact h op hop

/-- **Work is in order when the things worked on are.**  Where `r x y` has the work on `x` come after
that on `y`, and no two things are listed against that, it does. -/
theorem precedes_flatMap {xs : List α} {work : α → List Op} {r : α → α → Prop}
    (hirrefl : ∀ x ∈ xs, ¬ r x x) (horder : xs.Pairwise fun x y => ¬ r x y)
    (hr : ∀ x ∈ xs, ∀ y ∈ xs, ∀ a ∈ work x, ∀ b ∈ work y, latter a → former b → r x y) :
    Precedes former latter (xs.flatMap work) := by
  refine precedes_iff_pairwise.2 ⟨fun op hop hlatter hformer => ?_, List.pairwise_flatMap.2 ⟨?_, ?_⟩⟩
  · obtain ⟨x, hx, hop⟩ := List.mem_flatMap.1 hop
    exact hirrefl x hx (hr x hx x hx op hop op hop hlatter hformer)
  · intro x hx
    exact List.pairwise_of_forall_mem_list fun a ha b hb hlatter hformer =>
      hirrefl x hx (hr x hx x hx a ha b hb hlatter hformer)
  · refine horder.imp_of_mem fun {x y} hx hy hnot a ha b hb hlatter hformer => ?_
    exact hnot (hr x hx y hy a ha b hb hlatter hformer)

/-- The same where the work on each thing may fail. -/
theorem precedes_of_mapM {β : Type} {f : α → Except SchemaError β} {work : β → List Op}
    {xs : List α} {ys : List β} {r : α → α → Prop} (h : xs.mapM f = .ok ys)
    (hirrefl : ∀ x ∈ xs, ¬ r x x) (horder : xs.Pairwise fun x y => ¬ r x y)
    (hr : ∀ x ∈ xs, ∀ y ∈ xs, ∀ v w, f x = .ok v → f y = .ok w → ∀ a ∈ work v, ∀ b ∈ work w,
      latter a → former b → r x y) : Precedes former latter (ys.flatMap work) := by
  have he : ys.flatMap work = xs.flatMap fun x => (f x).toOption.elim [] work :=
    flatMap_eq_of_mapM h fun x _ y hy => by rw [hy]; rfl
  have hsource : ∀ {x a}, a ∈ (f x).toOption.elim [] work → ∃ v, f x = .ok v ∧ a ∈ work v := by
    intro x a ha
    cases hx : f x with
    | error e => simp [hx, Except.toOption] at ha
    | ok v => exact ⟨v, rfl, by simpa [hx, Except.toOption] using ha⟩
  rw [he]
  refine precedes_flatMap hirrefl horder fun x hx y hy a ha b hb => ?_
  obtain ⟨v, hv, ha⟩ := hsource ha
  obtain ⟨w, hw, hb⟩ := hsource hb
  exact hr x hx y hy v w hv hw a ha b hb

end Precedes

/-! ### Places of a draft -/

namespace Draft

/-- A plan read off a draft, place by place, with own statements in between. -/
theorem exists_own_statements (d : Draft) (custom : List CustomSql) :
    ∃ own : Stage → Bool → List Op,
      (∀ stage before, OfKinds [.comment, .customSql] (own stage before)) ∧
        (d.toPlan custom).ops =
          own .stage1 true ++ (d.opsAt .viewDrops ++ (d.opsAt .stage1 ++ (d.opsAt .stage1Tail ++
            (own .stage1 false ++ (own .stage2 true ++ (d.opsAt .stage2 ++ (own .stage2 false ++
              (own .stage3 true ++ (d.opsAt .stage3 ++ (d.opsAt .viewCreates ++
                (own .stage3 false ++ (own .stage4 true ++ (d.opsAt .stage4 ++
                  own .stage4 false))))))))))))) := by
  refine ⟨fun stage before =>
    (custom.filter fun e => e.stage == stage && (e.before == before)).flatMap customOps,
    fun _ _ => Comparison.ofKinds_custom _, ?_⟩
  rw [Comparison.ops_toPlan]
  simp [Stage.all, stageOps, ofStage, opsAt]

/-- **What is planned at one place only stands in the plan as it does there.** -/
theorem filterMap_ops_toPlan {d : Draft} {custom : List CustomSql} {β : Type} (place : Place)
    {f : Op → Option β} (hown : ∀ op, op.kind ∈ [OpKind.comment, .customSql] → f op = none)
    (hother : ∀ other, other ≠ place → ∀ op ∈ d.opsAt other, f op = none) :
    (d.toPlan custom).ops.filterMap f = (d.opsAt place).filterMap f := by
  obtain ⟨own, hkinds, he⟩ := d.exists_own_statements custom
  have hownNil : ∀ stage before, (own stage before).filterMap f = [] := fun stage before =>
    List.filterMap_eq_nil_iff.2 fun op hop => hown op (hkinds stage before op hop)
  have hotherNil : ∀ other, other ≠ place → (d.opsAt other).filterMap f = [] := fun other hne =>
    List.filterMap_eq_nil_iff.2 (hother other hne)
  rw [he]
  cases place <;> simp [hownNil, hotherNil]

theorem filter_ops_toPlan {d : Draft} {custom : List CustomSql} (place : Place) {keep : Op → Bool}
    (hown : ∀ op, op.kind ∈ [OpKind.comment, .customSql] → keep op = false)
    (hother : ∀ other, other ≠ place → ∀ op ∈ d.opsAt other, keep op = false) :
    (d.toPlan custom).ops.filter keep = (d.opsAt place).filter keep := by
  simp only [← List.filterMap_eq_filter]
  refine filterMap_ops_toPlan place (fun op hop => ?_) fun other hne op hop => ?_
  · simp [Option.guard, hown op hop]
  · simp [Option.guard, hother other hne op hop]

/-- The same for one kind of operations. -/
theorem Within.filterMap_toPlan {d : Draft} {custom : List CustomSql} {β : Type}
    {planned : Place → List OpKind} {f : Op → Option β} {kind : OpKind} (hd : d.Within planned)
    (place : Place) (hf : ∀ op, (f op).isSome → op.kind = kind)
    (hown : kind ∉ [OpKind.comment, .customSql])
    (hother : ∀ other, other ≠ place → kind ∉ planned other) :
    (d.toPlan custom).ops.filterMap f = (d.opsAt place).filterMap f := by
  have hnone : ∀ {op : Op}, op.kind ≠ kind → f op = none := fun hne =>
    Option.not_isSome_iff_eq_none.1 fun hsome => hne (hf _ hsome)
  refine filterMap_ops_toPlan place (fun op hop => hnone fun he => hown (he ▸ hop)) ?_
  exact fun other hne op hop => hnone fun he => hother other hne (he ▸ hd other op hop)

/-- Operations of kinds that are planned at one place only are in order if they are there. -/
theorem Within.precedes_toPlan {d : Draft} {custom : List CustomSql}
    {former latter : Op → Prop} {planned : Place → List OpKind} {kinds : List OpKind}
    (hd : d.Within planned) (place : Place) (hformer : ∀ op, former op → op.kind ∈ kinds)
    (hlatter : ∀ op, latter op → op.kind ∈ kinds)
    (hown : ∀ kind ∈ kinds, kind ∉ [OpKind.comment, .customSql])
    (hother : ∀ other, other ≠ place → ∀ kind ∈ kinds, kind ∉ planned other)
    (h : Precedes former latter (d.opsAt place)) :
    Precedes former latter (d.toPlan custom).ops := by
  have hkeepFormer : ∀ op, former op → decide (op.kind ∈ kinds) = true :=
    fun op hop => decide_eq_true (hformer op hop)
  have hkeepLatter : ∀ op, latter op → decide (op.kind ∈ kinds) = true :=
    fun op hop => decide_eq_true (hlatter op hop)
  rw [← precedes_filter_iff hkeepFormer hkeepLatter,
    filter_ops_toPlan place ?_ ?_, precedes_filter_iff hkeepFormer hkeepLatter]
  · exact h
  · exact fun op hop => decide_eq_false fun hk => hown _ hk hop
  · exact fun other hne op hop => decide_eq_false fun hk => hother other hne _ hk (hd other op hop)

end Draft

end SchemaPlan
