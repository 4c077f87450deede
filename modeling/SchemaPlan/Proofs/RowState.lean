import Mathlib.Logic.Function.Basic
import SchemaPlan.Op

/-!
# What row operations do

The rows of a table form a map from what a row counts as to the literals in its columns
(`RowState`).  An operation changes one row of it (`rowEffect`), and only where that makes sense: a
row is inserted if it is not there, and updated or deleted if it is.

An operation tells its row by literals, which is not what rows are matched by; so a `RowStep` carries
the row that its operation is for.  When no two steps are for one row, each finds its row as it was
in the beginning, and the steps succeed together when each does by itself
(`RowState.exists_run_of_nodup`).
-/

namespace SchemaPlan

/-- The literals of a row by column, as far as they are known. -/
abbrev RowCells := String → Option String

/-- Rows by what they count as. -/
abbrev RowState := List String → Option RowCells

/-- A row operation with the row it is for. -/
structure RowStep where
  identity : List String
  op : Op

/-- Cells after an assignment. -/
def RowCells.assign (cells : RowCells) (values : Assignments) : RowCells :=
  fun column => (values.lookup column).or (cells column)

/-- What an operation makes of the row it is for, if it can be carried out. -/
def rowEffect : Op → Option RowCells → Option (Option RowCells)
  | .deleteRow _ _, some _ => some none
  | .updateRow _ assignments _ _, some cells => some (some (cells.assign assignments))
  | .insertRow _ columns values, none =>
    some (some (RowCells.assign (fun _ => none) (columns.zip values)))
  | _, _ => none

namespace RowState

/-- The rows after a step. -/
def apply (rows : RowState) (step : RowStep) : Option RowState :=
  (rowEffect step.op (rows step.identity)).map (Function.update rows step.identity)

/-- The rows after some steps, one after the other. -/
def run (rows : RowState) (steps : List RowStep) : Option RowState :=
  steps.foldlM apply rows

/-- A step leaves all rows but its own as they are. -/
theorem apply_of_ne {rows next : RowState} {step : RowStep} (h : rows.apply step = some next)
    {identity : List String} (hne : identity ≠ step.identity) : next identity = rows identity := by
  obtain ⟨row, _, rfl⟩ := Option.map_eq_some_iff.1 h
  exact Function.update_of_ne hne row rows

/-- **Steps that are for different rows do not interfere.** -/
theorem exists_run_of_nodup : ∀ {steps : List RowStep} {rows : RowState},
    (steps.map (·.identity)).Nodup →
    (∀ step ∈ steps, ∃ row, rowEffect step.op (rows step.identity) = some row) →
    ∃ final, rows.run steps = some final ∧
      (∀ step ∈ steps, rowEffect step.op (rows step.identity) = some (final step.identity)) ∧
      ∀ identity, identity ∉ steps.map (·.identity) → final identity = rows identity := by
  intro steps
  induction steps with
  | nil =>
    intro rows _ _
    exact ⟨rows, rfl, by simp, fun _ _ => rfl⟩
  | cons step steps ih =>
    intro rows hnodup hall
    rw [List.map_cons, List.nodup_cons] at hnodup
    obtain ⟨row, hrow⟩ := hall step List.mem_cons_self
    -- The other steps find their rows as they were.
    have hothers : ∀ other ∈ steps,
        Function.update rows step.identity row other.identity = rows other.identity := by
      intro other hother
      have hne : other.identity ≠ step.identity := by
        intro he
        rw [← he] at hnodup
        exact hnodup.1 (List.mem_map_of_mem hother)
      exact Function.update_of_ne hne row rows
    have hrest : ∀ other ∈ steps, ∃ r,
        rowEffect other.op (Function.update rows step.identity row other.identity) = some r := by
      intro other hother
      rw [hothers other hother]
      exact hall other (List.mem_cons_of_mem _ hother)
    obtain ⟨final, hrun, heffects, hframe⟩ := ih hnodup.2 hrest
    have happly : rows.apply step = some (Function.update rows step.identity row) := by
      rw [apply, hrow, Option.map_some]
    refine ⟨final, ?_, ?_, ?_⟩
    · rw [run, List.foldlM_cons, happly]
      exact hrun
    · intro other hother
      rcases List.mem_cons.1 hother with rfl | hother
      · rw [hframe _ hnodup.1, Function.update_self]
        exact hrow
      · rw [← heffects other hother, hothers other hother]
    · intro identity hidentity
      rw [List.map_cons, List.mem_cons, not_or] at hidentity
      rw [hframe identity hidentity.2]
      exact apply_of_ne happly hidentity.1

end RowState

end SchemaPlan
