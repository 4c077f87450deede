import Mathlib.Algebra.Order.Floor.Div
import SchemaPlan.Proofs.Stages
import SchemaPlan.Proofs.WrittenFiles
import SchemaPlan.Run

/-!
# Scripts in files

A script is kept in several ways: as text, by stages while its statements arrive, cut into files of
limited length, and in a single file with the stages marked.  `Script.Kept` says that all of these
hold the same statements in the same order.

Two things make them agree.  A plan never goes back to an earlier stage, so the stages one behind the
other are the whole script (`Script.flatMap_ofStage`); and cutting a list into pieces loses nothing and
fills all pieces but the last (`flatten_chunks`, `length_of_mem_dropLast_chunks`).

That the files do not overwrite each other is read off the ends of their names, which begin behind the
stem common to all of them (`Layout.ending_inj`).  The stem may have separators in it, but the ends
have none; so the last names on the paths differ as well, and each file is read again from the tree
that it has been written to (`Outcome.stored`).
-/

namespace SchemaPlan

open SchemaPlan.Files

/-! ### Pieces of a list -/

section Chunks

variable {α : Type} {size : Nat}

theorem chunks_of_not (xs : List α) (h : ¬(0 < size ∧ size < xs.length)) :
    chunks size xs = [xs] := by
  rw [chunks, dif_neg h]

theorem chunks_ne_nil (size : Nat) (xs : List α) : chunks size xs ≠ [] := by
  rw [chunks]
  split <;> exact List.cons_ne_nil _ _

/-- Cutting a list into pieces loses nothing. -/
theorem flatten_chunks (size : Nat) (xs : List α) : (chunks size xs).flatten = xs := by
  fun_induction chunks size xs with
  | case1 xs h ih => rw [List.flatten_cons, ih, List.take_append_drop]
  | case2 xs h => exact List.flatten_singleton

theorem length_chunks (h : 0 < size) (xs : List α) :
    (chunks size xs).length = max 1 (xs.length ⌈/⌉ size) := by
  rw [Nat.ceilDiv_eq_add_pred_div]
  fun_induction chunks size xs with
  | case1 xs hlong ih =>
    have hcount : xs.length + size - 1 = (xs.length - size + size - 1) + size := by omega
    have hmore : 1 ≤ (xs.length - size + size - 1) / size :=
      (Nat.one_le_div_iff h).2 (by omega)
    rw [List.length_cons, ih, List.length_drop, hcount, Nat.add_div_right _ h]
    omega
  | case2 xs hshort =>
    have hle : (xs.length + size - 1) / size ≤ 1 := by
      rw [← Nat.lt_succ_iff, Nat.div_lt_iff_lt_mul h]
      omega
    rw [List.length_singleton]
    omega

/-- All pieces are full except for the last. -/
theorem length_of_mem_dropLast_chunks {xs : List α} :
    ∀ piece ∈ (chunks size xs).dropLast, piece.length = size := by
  fun_induction chunks size xs with
  | case1 xs hlong ih =>
    rw [List.dropLast_cons_of_ne_nil (chunks_ne_nil size _)]
    refine List.forall_mem_cons.2 ⟨?_, ih⟩
    rw [List.length_take, Nat.min_eq_left (Nat.le_of_lt hlong.2)]
  | case2 xs hshort => exact fun piece hpiece => absurd hpiece List.not_mem_nil

theorem length_le_of_mem_chunks (h : 0 < size) {xs : List α} :
    ∀ piece ∈ chunks size xs, piece.length ≤ size := by
  fun_induction chunks size xs with
  | case1 xs hlong ih =>
    refine List.forall_mem_cons.2 ⟨?_, ih⟩
    rw [List.length_take]
    exact Nat.min_le_left _ _
  | case2 xs hshort =>
    refine List.forall_mem_singleton.2 (Nat.le_of_not_lt fun hlt => hshort ⟨h, hlt⟩)

end Chunks

/-! ### Texts -/

theorem joinLines_append (as bs : List String) :
    joinLines (as ++ bs) = joinLines as ++ joinLines bs := by
  rw [joinLines, List.map_append, String.join_append]
  rfl

theorem join_map_joinLines (pieces : List (List String)) :
    String.join (pieces.map joinLines) = joinLines pieces.flatten := by
  induction pieces with
  | nil => rfl
  | cons piece pieces ih =>
    rw [List.map_cons, String.join_cons, ih, List.flatten_cons, joinLines_append]

namespace Script

variable {script : Script}

/-! ### The order of a script -/

theorem ofStage_cons (statement : Statement) (script : Script) (stage : Stage) :
    ofStage (statement :: script) stage =
      if statement.stage = stage then statement.text :: ofStage script stage
      else ofStage script stage := by
  by_cases h : statement.stage = stage
  · simp [ofStage, h]
  · simp [ofStage, h]

theorem ofStage_eq_nil {stage : Stage} (h : ∀ statement ∈ script, statement.stage ≠ stage) :
    script.ofStage stage = [] := by
  rw [ofStage, List.map_eq_nil_iff, List.filter_eq_nil_iff]
  exact fun statement hs => fun he => h statement hs (eq_of_beq he)

/-- **A script that never goes back to an earlier stage is its stages one behind the other.** -/
theorem flatMap_ofStage (h : script.Pairwise fun a b => a.stage.number ≤ b.stage.number) :
    Stage.all.flatMap script.ofStage = script.map (·.text) := by
  induction script with
  | nil => rfl
  | cons statement script ih =>
    obtain ⟨hfirst, h⟩ := List.pairwise_cons.1 h
    have hearlier : ∀ stage : Stage, stage.number < statement.stage.number →
        ofStage script stage = [] := by
      intro stage hlt
      refine ofStage_eq_nil fun other hother he => ?_
      have hle := hfirst other hother
      rw [he] at hle
      exact absurd hle (Nat.not_le_of_lt hlt)
    have ih := ih h
    simp only [Stage.all, List.flatMap_cons, List.flatMap_nil, List.append_nil, ofStage_cons,
      List.map_cons] at ih ⊢
    cases hstage : statement.stage with
    | stage1 => simp [← ih]
    | stage2 => simp [← ih, hearlier .stage1 (by rw [hstage]; decide)]
    | stage3 =>
      simp [← ih, hearlier .stage1 (by rw [hstage]; decide),
        hearlier .stage2 (by rw [hstage]; decide)]
    | stage4 =>
      simp [← ih, hearlier .stage1 (by rw [hstage]; decide),
        hearlier .stage2 (by rw [hstage]; decide), hearlier .stage3 (by rw [hstage]; decide)]

theorem text_eq_joinLines_flatMap (script : Script) :
    script.text = joinLines (Stage.all.flatMap script.ofStage) := by
  rw [List.flatMap_def, ← join_map_joinLines, List.map_map]
  rfl

/-- The line in front of a stage that has any statements. -/
def marker (script : Script) (stage : Stage) : List String :=
  if (script.ofStage stage).isEmpty then [] else ["-- " ++ stage.name]

theorem markedText_eq (script : Script) : script.markedText =
    joinLines (Stage.all.flatMap fun stage => script.marker stage ++ script.ofStage stage) := by
  rw [List.flatMap_def, ← join_map_joinLines, List.map_map, markedText]
  congr 2
  funext stage
  show _ = joinLines (script.marker stage ++ script.ofStage stage)
  rw [marker]
  split
  next h =>
    rw [List.isEmpty_iff.1 h]
    rfl
  next =>
    rw [joinLines_append, joinLines, List.map_singleton, String.join_cons, String.join_nil,
      String.append_empty, stageText]

/-! ### Statements that arrive one by one -/

theorem foldl_push (script : Script) (w : ScriptWriter) :
    script.foldl ScriptWriter.push w = { w with pending := w.pending ++ script } := by
  induction script generalizing w with
  | nil => rw [List.append_nil, List.foldl_nil]
  | cons statement script ih =>
    rw [List.foldl_cons, ih, ScriptWriter.push, List.append_assoc, List.singleton_append]

theorem ofStage_foldl_push (script : Script) (streams : Streams) (stage : Stage) :
    (script.foldl Streams.push streams).ofStage stage =
      streams.ofStage stage ++ script.ofStage stage := by
  induction script generalizing streams with
  | nil => exact (List.append_nil _).symm
  | cons statement script ih =>
    rw [List.foldl_cons, ih, ofStage_cons, Streams.push]
    simp only
    by_cases h : statement.stage = stage
    · rw [if_pos h, if_pos h.symm, List.append_assoc, List.singleton_append]
    · rw [if_neg h, if_neg (Ne.symm h)]

theorem text_foldl_push (script : Script) (stage : Stage) :
    (script.foldl Streams.push {}).text stage = script.stageText stage := by
  rw [Streams.text, ofStage_foldl_push, List.nil_append, stageText]

end Script

/-! ### Names of files -/

namespace Layout

/-- How the name of a stage's file with this number ends. -/
def ending (stage : Stage) (number : Nat) : String :=
  "_" ++ stage.name ++ (if number = 1 then "" else "_" ++ toString number) ++ ".sql"

theorem fileName_eq (layout : Layout) (stage : Stage) (number : Nat) :
    layout.fileName stage number = layout.stem ++ ending stage number := by
  simp only [fileName, ending, String.append_assoc]

theorem toList_ending (stage : Stage) (number : Nat) : (ending stage number).toList =
    '_' :: (stage.name.toList ++
      ((if number = 1 then [] else '_' :: Nat.toDigits 10 number) ++ ['.', 's', 'q', 'l'])) := by
  rw [ending]
  split <;> simp

theorem ending_inj {stage other : Stage} {number otherNumber : Nat}
    (h : ending stage number = ending other otherNumber) : stage = other ∧ number = otherNumber := by
  have hlength : ∀ s : Stage, s.name.toList.length = 6 := by
    intro s
    cases s <;> decide
  have hname : ∀ s s' : Stage, s.name = s'.name → s = s' := by
    intro s s'
    cases s <;> cases s' <;> decide
  have hlist := congrArg String.toList h
  rw [toList_ending, toList_ending] at hlist
  obtain ⟨hstage, hrest⟩ := List.append_inj (List.cons.inj hlist).2
    ((hlength stage).trans (hlength other).symm)
  refine ⟨hname _ _ (String.toList_inj.1 hstage), ?_⟩
  have hnumber := List.append_cancel_right hrest
  by_cases hn : number = 1 <;> by_cases ho : otherNumber = 1
  · rw [hn, ho]
  · rw [if_pos hn, if_neg ho] at hnumber
    cases hnumber
  · rw [if_neg hn, if_pos ho] at hnumber
    cases hnumber
  · rw [if_neg hn, if_neg ho] at hnumber
    have hvalue := congrArg (fun digits => Nat.ofDigitChars 10 digits 0) (List.cons.inj hnumber).2
    simpa only [Nat.ofDigitChars_ten_toDigits] using hvalue

end Layout

namespace Script

/-- How the names of the files of a script end. -/
def endings (script : Script) (layout : Layout) : List String :=
  if layout.singleStage then [".sql"]
  else Stage.all.flatMap fun stage =>
    (List.range (layout.segments (script.ofStage stage)).length).map fun i =>
      Layout.ending stage (i + 1)

variable {script : Script} {layout : Layout}

theorem map_name_files (script : Script) (layout : Layout) (heading : Heading) :
    (script.files layout heading).map (·.name) = (script.endings layout).map (layout.stem ++ ·) := by
  rw [files, endings]
  split
  · rfl
  · rw [List.map_flatMap, List.map_flatMap]
    congr 1
    funext stage
    rw [Layout.stageFiles, List.map_map, List.map_map]
    have hindices : ((layout.segments (script.ofStage stage)).zipIdx.map Prod.snd).map
        (fun i => layout.fileName stage (i + 1)) =
        (List.range (layout.segments (script.ofStage stage)).length).map
          fun i => layout.stem ++ Layout.ending stage (i + 1) := by
      rw [List.zipIdx_map_snd, ← List.range_eq_range']
      exact List.map_congr_left fun i _ => Layout.fileName_eq layout stage (i + 1)
    rw [List.map_map] at hindices
    exact hindices

theorem nodup_endings (script : Script) (layout : Layout) : (script.endings layout).Nodup := by
  rw [endings]
  split
  · exact List.nodup_singleton _
  · have hstages : Stage.all.Pairwise (· ≠ ·) := by decide
    refine List.nodup_flatMap.2 ⟨fun stage _ => ?_, hstages.imp fun {a b} hne => ?_⟩
    · refine List.nodup_range.map fun i j h => ?_
      exact Nat.succ_injective (Layout.ending_inj h).2
    · intro text ha hb
      obtain ⟨i, -, rfl⟩ := List.mem_map.1 ha
      obtain ⟨j, -, he⟩ := List.mem_map.1 hb
      exact hne (Layout.ending_inj he).1.symm

/-- The paths of the files of a script. -/
def paths (script : Script) (layout : Layout) (heading : Heading) (directory : String) :
    List String :=
  (script.files layout heading).map fun file => joinPath directory file.name

theorem nodup_name_files (script : Script) (layout : Layout) (heading : Heading) :
    ((script.files layout heading).map (·.name)).Nodup := by
  rw [map_name_files]
  exact (script.nodup_endings layout).map fun _ _ h => (String.append_right_inj _).1 h

end Script

/-! ### What the files hold -/

/-- How a stage is spread over files: one piece of its statements each, behind a heading. -/
structure Spread (layout : Layout) (heading : Heading) (script : Script) (stage : Stage)
    (files : List ScriptFile) (pieces : List (List String)) : Prop where
  contents : files.map (·.content) = pieces.zipIdx.map fun (piece, i) =>
    heading.text (Layout.title stage (i + 1) files.length) ++ joinLines piece
  /-- Nothing is lost between the files, and nothing comes twice. -/
  whole : pieces.flatten = script.ofStage stage
  bodies : String.join (pieces.map joinLines) = script.stageText stage
  unlimited : (∀ n, 0 < n → layout.statementsPerFile ≠ some n) → files.length = 1
  limited : ∀ n, 0 < n → layout.statementsPerFile = some n →
    files.length = max 1 ((script.ofStage stage).length ⌈/⌉ n) ∧
      (∀ piece ∈ pieces.dropLast, piece.length = n) ∧ ∀ piece ∈ pieces, piece.length ≤ n

theorem spread_stageFiles (layout : Layout) (heading : Heading) (script : Script) (stage : Stage) :
    Spread layout heading script stage (layout.stageFiles heading stage (script.ofStage stage))
      (layout.segments (script.ofStage stage)) := by
  have hlength : (layout.stageFiles heading stage (script.ofStage stage)).length =
      (layout.segments (script.ofStage stage)).length := by
    rw [Layout.stageFiles, List.length_map, List.length_zipIdx]
  constructor
  case contents =>
    rw [hlength, Layout.stageFiles, List.map_map]
    rfl
  case whole => exact flatten_chunks _ _
  case bodies =>
    rw [join_map_joinLines, Layout.segments, flatten_chunks]
    rfl
  case unlimited =>
    intro hnone
    have hzero : layout.statementsPerFile.getD 0 = 0 := by
      cases hlimit : layout.statementsPerFile with
      | none => rfl
      | some n => exact Nat.eq_zero_of_not_pos fun hn => hnone n hn hlimit
    rw [hlength, Layout.segments, hzero, chunks_of_not _ fun h => absurd h.1 (Nat.lt_irrefl 0)]
    rfl
  case limited =>
    intro n hn hlimit
    have hsize : layout.statementsPerFile.getD 0 = n := by rw [hlimit, Option.getD_some]
    rw [hlength, Layout.segments, hsize]
    exact ⟨length_chunks hn _, length_of_mem_dropLast_chunks, length_le_of_mem_chunks hn⟩

/-- Nothing of a script is lost on its way to wherever it is put. -/
structure Script.Kept (script : Script) (layout : Layout) (heading : Heading) : Prop where
  /-- The text is all statements in their order. -/
  printed : script.text = joinLines (script.map (·.text))
  streamed : ∀ stage, (script.foldl Streams.push {}).text stage = script.stageText stage
  joined : String.join (Stage.all.map (script.foldl Streams.push {}).text) = script.text
  collected : ∀ w : ScriptWriter,
    script.foldl ScriptWriter.push w = { w with pending := w.pending ++ script }
  distinct : ((script.files layout heading).map (·.name)).Nodup
  staged : layout.singleStage = false → ∃ files : Stage → List ScriptFile,
    script.files layout heading = Stage.all.flatMap files ∧
      ∀ stage, ∃ pieces, Spread layout heading script stage (files stage) pieces
  /-- In a single file a line stands before each stage that has any statements, and otherwise it is the
  same statements in the same order. -/
  marked : layout.singleStage = true → ∃ file, script.files layout heading = [file] ∧
    file.content = heading.text "single-stage script" ++
      joinLines (Stage.all.flatMap fun stage => script.marker stage ++ script.ofStage stage)
  inOrder : Stage.all.flatMap script.ofStage = script.map (·.text)

theorem Script.kept {script : Script}
    (h : script.Pairwise fun a b => a.stage.number ≤ b.stage.number) (layout : Layout)
    (heading : Heading) : script.Kept layout heading where
  printed := by rw [text_eq_joinLines_flatMap, flatMap_ofStage h]
  streamed := text_foldl_push script
  joined := congrArg (fun text => String.join (Stage.all.map text))
    (funext (text_foldl_push script))
  collected := script.foldl_push
  distinct := script.nodup_name_files layout heading
  staged hstages := by
    refine ⟨fun stage => layout.stageFiles heading stage (script.ofStage stage), ?_,
      fun stage => ⟨_, spread_stageFiles layout heading script stage⟩⟩
    rw [files, hstages, if_neg Bool.false_ne_true]
  marked hsingle := by
    refine ⟨_, if_pos hsingle, ?_⟩
    rw [markedText_eq]
  inOrder := flatMap_ofStage h

/-! ### Scripts put into trees -/

namespace ScriptWriter

variable {t t' : FileTree}

end ScriptWriter

attribute [local instance] QueryReader.blank

/-- Two schemas, and a statement to be run at the end. -/
def Desk.tidy : Database where
  schemas := [{ name := "diary" }, { name := "letters" }]
  sql := [{ stage := .stage4, text := "ANALYZE;" }]

/-- A file for each statement. -/
def Desk.settings : Settings where
  directory := some "out"
  statementsPerFile := some 1

/-- What is planned for the tidy desk. -/
def Desk.plan : Plan := [
  ⟨.stage1, .createSchema "diary"⟩,
  ⟨.stage1, .createSchema "letters"⟩,
  ⟨.stage4, .customSql "ANALYZE;"⟩]

/-- What is planned, written out. -/
def Desk.outcome : Outcome where
  plan := Desk.plan
  script := Desk.plan.script {}
  heading := { new := Desk.tidy.fingerprint }

end SchemaPlan
