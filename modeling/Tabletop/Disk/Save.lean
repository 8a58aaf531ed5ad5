/-
# Saving a file

A file is saved by filling a temporary file in the folder of the target and
renaming it over the target: a reader of the target finds the old content or
the new one, never a part of it. Each step can fail; the temporary file then
goes away, and of the folders that were made the empty ones stay. The temporary
file is named by a path from the root, which may be too long where the path of
the target is not.

Key definitions: `Saving`, `Saving.step`, `Saving.run`, `Disk.save`.
-/
import Tabletop.Disk.Basic

namespace Tabletop

/-- A save under way: the disk, and the temporary file if there is one. -/
structure Saving where
  disk : Disk
  temporary : Option Location

namespace Disk

/-- A name that no entry within a folder has, and that does not come in the
location of the target: it is longer than all of them. -/
def freshName (d : Disk) (l target : Location) : String :=
  let longest := (d.namesWithin l ++ target).foldl (fun n name => max n name.length) 0
  String.ofList (".tmp".toList ++ List.replicate longest 'x')

/-- A path from the root to a file in a folder; the folder's path may begin at
the working folder. The name of the file has ten characters, as names of
temporary files have. -/
def temporaryPath (d : Disk) (folder : String) : String :=
  Path.join (Path.join ("/" ++ "/".intercalate d.home) folder) ".tmpxxxxxx"

end Disk

namespace Saving

/-- Puts content into the temporary file. -/
def fill (s : Saving) (content : ByteArray) : Except FileError Unit × Saving :=
  match s.temporary with
  | some l => (.ok (), { s with disk := s.disk.put l (.file content) })
  | none => (.error .notFound, s)

/-- What a step does where nothing outside of the disk prevents it. -/
def act (path : String) (body : ByteArray) (s : Saving) : SaveStep → Except FileError Unit × Saving
  | .makeFolders =>
    let (result, disk) := s.disk.makeFolders (Path.folder path)
    (result, { s with disk })
  | .makeTemporary =>
    match s.disk.locate (Path.folder path) with
    | .error e => (.error e, s)
    | .ok l =>
      if !Disk.pathFits (s.disk.temporaryPath (Path.folder path)) then (.error .badName, s) else
      match s.disk.opensAt l with
      | .error e => (.error e, s)
      | .ok () =>
        let place := l ++ [s.disk.freshName l (s.disk.place path)]
        (.ok (), ⟨s.disk.put place (.file ByteArray.empty), some place⟩)
  | .writeBody => s.fill body
  | .writeEnd => s.fill (body.push 10)
  | .flush => (.ok (), s)
  | .rename =>
    match s.temporary, s.disk.locate path with
    | none, _ => (.error .notFound, s)
    | _, .error e => (.error e, s)
    | some place, .ok target =>
      match s.disk.entryAt target, s.disk.entryAt place with
      | some .folder, _ => (.error .isFolder, s)
      | _, some e => (.ok (), ⟨(s.disk.erase place).put target e, none⟩)
      | _, none => (.error .notFound, s)

/-- One step of saving. -/
def step (path : String) (body : ByteArray) (s : Saving) (n : SaveStep) :
    Except FileError Unit × Saving :=
  if s.disk.refuses n then (.error .refused, s) else s.act path body n

/-- The steps of saving, in their order. -/
def steps : List SaveStep :=
  [.makeFolders, .makeTemporary, .writeBody, .writeEnd, .flush, .rename]

/-- Takes steps as long as they succeed. -/
def run (path : String) (body : ByteArray) (s : Saving) :
    List SaveStep → Except FileError Unit × Saving
  | [] => (.ok (), s)
  | n :: rest =>
    match s.step path body n with
    | (.ok (), s) => run path body s rest
    | (.error e, s) => (.error e, s)

/-- The disk once the temporary file is gone. -/
def cleared (s : Saving) : Disk :=
  match s.temporary with
  | some l => s.disk.erase l
  | none => s.disk

end Saving

/-- Saves a text and a line feed at a path. -/
def Disk.save (d : Disk) (path text : String) : Except FileError Unit × Disk :=
  let (result, s) := Saving.run path text.toUTF8 ⟨d, none⟩ Saving.steps
  (result, s.cleared)

end Tabletop
