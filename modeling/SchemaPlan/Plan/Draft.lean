import SchemaPlan.Op

/-!
# Drafts of a plan

The passes of a comparison each contribute operations to several places of the final plan.  A
`Draft` holds what goes to each place, drafts are joined place by place, and `Draft.toPlan` reads
the places in order.  So the order of passes decides the order inside a place and nothing else.

Views are removed at the very beginning and created at the very end of what changes structure; a
tail of the first stage waits until every column exists.  The fourth stage has a place like the
others.
-/

namespace SchemaPlan

/-- Operations by the place they take in a plan. -/
structure Draft where
  viewDrops : List Op := []
  stage1 : List Op := []
  stage1Tail : List Op := []
  stage2 : List Op := []
  stage3 : List Op := []
  viewCreates : List Op := []
  stage4 : List Op := []
deriving DecidableEq

namespace Draft

/-- Joins drafts place by place. -/
def append (a b : Draft) : Draft where
  viewDrops := a.viewDrops ++ b.viewDrops
  stage1 := a.stage1 ++ b.stage1
  stage1Tail := a.stage1Tail ++ b.stage1Tail
  stage2 := a.stage2 ++ b.stage2
  stage3 := a.stage3 ++ b.stage3
  viewCreates := a.viewCreates ++ b.viewCreates
  stage4 := a.stage4 ++ b.stage4

instance : Append Draft := ⟨append⟩

/-- Joins a list of drafts. -/
def join (ds : List Draft) : Draft :=
  ds.foldr (· ++ ·) {}

/-- Operations of the first stage. -/
abbrev first (ops : List Op) : Draft :=
  { stage1 := ops }

/-- Whether anything changes structure, the views themselves aside. -/
def isStructural (d : Draft) : Bool :=
  !(d.stage1.isEmpty && d.stage1Tail.isEmpty && d.stage3.isEmpty && d.stage4.isEmpty)

/-- The operations of a stage. -/
def ofStage (d : Draft) : Stage → List Op
  | .stage1 => d.viewDrops ++ d.stage1 ++ d.stage1Tail
  | .stage2 => d.stage2
  | .stage3 => d.stage3 ++ d.viewCreates
  | .stage4 => d.stage4

/-- A statement of the definition's own, with its comment in front. -/
def customOps (entry : CustomSql) : List Op :=
  (entry.comment.map Op.comment).toList ++ [.customSql entry.text]

/-- The operations of a stage between the statements that asked for its beginning or its end. -/
def stageOps (d : Draft) (custom : List CustomSql) (stage : Stage) : List Op :=
  (custom.filter fun e => e.stage == stage && e.before).flatMap customOps ++ d.ofStage stage ++
    (custom.filter fun e => e.stage == stage && !e.before).flatMap customOps

/-- The plan that a draft and the definition's own statements make up. -/
def toPlan (d : Draft) (custom : List CustomSql) : Plan :=
  Stage.all.flatMap fun stage => (d.stageOps custom stage).map fun op => ⟨stage, op⟩

end Draft

end SchemaPlan
