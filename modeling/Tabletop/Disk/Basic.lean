/-
# The disk

Files and folders as a value: what there is at each location, a location being
the names from the root down. A path is followed from the working folder, or
from the root, through folders only. Every change says what becomes of one
location and leaves all others alone (`entryAt_put`, `entryAt_erase`).

Reading can be refused like the steps of a save: a locked file is there but is
not read, and a hidden folder is entered but not listed.

Key definitions: `Disk`, `Disk.entryAt`, `Disk.locate`, `Disk.readText`,
`Disk.listFolder`, `Disk.makeFolders`.
Key theorems: `Disk.entryAt_put`, `Disk.entryAt_erase`.
-/
import Tabletop.Disk.Path

namespace Tabletop

/-- The names that lead from the root to some place. -/
abbrev Location := List String

/-- What there is at a place. Nobody sees what is in a locked file; a save puts
another file in its place. -/
inductive Entry where
  | file (content : ByteArray)
  | locked
  | folder

instance : DecidableEq Entry
  | .file a, .file b =>
    match ByteArray.decEq a b with
    | isTrue h => isTrue (congrArg Entry.file h)
    | isFalse h => isFalse fun he => h (Entry.file.inj he)
  | .locked, .locked => isTrue rfl
  | .folder, .folder => isTrue rfl
  | .file _, .locked | .file _, .folder => isFalse nofun
  | .locked, .file _ | .locked, .folder => isFalse nofun
  | .folder, .file _ | .folder, .locked => isFalse nofun

/-- Why a file or a folder cannot be used. -/
inductive FileError where
  | notFound
  | notFolder
  | isFolder
  | badName
  | notText
  | refused
  deriving DecidableEq, Repr

/-- The error in words. -/
def FileError.message : FileError → String
  | notFound => "no such file or directory"
  | notFolder => "not a directory"
  | isFolder => "is a directory"
  | badName => "file name cannot be used"
  | notText => "file is not UTF-8 text"
  | refused => "the disk refused"

/-- The steps of saving a file. -/
inductive SaveStep where
  | makeFolders
  | makeTemporary
  | writeBody
  | writeEnd
  | flush
  | rename
  deriving DecidableEq, Repr

/-- Files and folders, the working folder, the folders that are not listed, and
the steps of saving that fail for a reason outside of it. -/
structure Disk where
  entries : List (Location × Entry)
  home : Location
  hides : Location → Bool
  refuses : SaveStep → Bool

namespace Disk

/-- A disk with nothing but the way to its working folder. -/
def blank (home : Location) : Disk where
  entries := (List.range home.length).map fun n => (home.take (n + 1), .folder)
  home
  hides _ := false
  refuses _ := false

/-- What there is at a location. The root is a folder. -/
def entryAt (d : Disk) (l : Location) : Option Entry :=
  if l = [] then some .folder else d.entries.lookup l

/-- The disk with an entry at a location. -/
def put (d : Disk) (l : Location) (e : Entry) : Disk :=
  { d with entries := (l, e) :: d.entries.filter (·.1 ≠ l) }

/-- The disk without the entry at a location. -/
def erase (d : Disk) (l : Location) : Disk :=
  { d with entries := d.entries.filter (·.1 ≠ l) }

/-- The disk with a folder that is no longer listed. -/
def hide (d : Disk) (l : Location) : Disk :=
  { d with hides := fun x => x = l || d.hides x }

theorem lookup_filter_ne (es : List (Location × Entry)) (l x : Location) :
    (es.filter (·.1 ≠ l)).lookup x = if x = l then none else es.lookup x := by
  induction es with
  | nil => simp
  | cons e es ih =>
    obtain ⟨k, v⟩ := e
    by_cases hk : k = l
    · subst hk
      by_cases hx : x = k
      · simpa [hx] using ih
      · simpa [List.lookup_cons, hx, beq_eq_false_iff_ne.2 hx] using ih
    · by_cases hx : x = k
      · subst hx
        simp [hk]
      · simpa [List.lookup_cons, hk, beq_eq_false_iff_ne.2 hx] using ih

/-- **Putting an entry changes its location only.** -/
theorem entryAt_put (d : Disk) (l : Location) (e : Entry) (x : Location) :
    (d.put l e).entryAt x =
      if x = [] then some .folder else if x = l then some e else d.entryAt x := by
  by_cases h0 : x = []
  · simp [entryAt, h0]
  · by_cases hx : x = l
    · subst hx
      simp [entryAt, put, h0]
    · have : ((l, e) :: d.entries.filter (·.1 ≠ l)).lookup x = d.entries.lookup x := by
        rw [List.lookup_cons, beq_eq_false_iff_ne.2 hx]
        simpa [hx] using lookup_filter_ne d.entries l x
      simp only [entryAt, put, h0, hx, if_false, this]

/-- **Erasing an entry changes its location only.** -/
theorem entryAt_erase (d : Disk) (l : Location) (x : Location) :
    (d.erase l).entryAt x =
      if x = [] then some .folder else if x = l then none else d.entryAt x := by
  by_cases h0 : x = []
  · simp [entryAt, h0]
  · simp only [entryAt, erase, h0, if_false]
    exact lookup_filter_ne d.entries l x

/-! ### Following paths -/

/-- Whether a name is short enough. -/
def nameFits (name : String) : Bool :=
  name.utf8ByteSize ≤ 255

/-- Whether a path is short enough and free of NUL. -/
def pathFits (path : String) : Bool :=
  path.utf8ByteSize < 4096 && !path.toList.contains '\x00'

/-- Whether parts of a path can follow on a location: only on a folder. -/
def opensAt (d : Disk) (l : Location) : Except FileError Unit :=
  match d.entryAt l with
  | some .folder => .ok ()
  | some _ => .error .notFolder
  | none => .error .notFound

/-- Where one part of a path leads. -/
def stepTo (l : Location) (part : String) : Except FileError Location :=
  if part = "" ∨ part = "." then .ok l
  else if part = ".." then .ok l.dropLast
  else if nameFits part then .ok (l ++ [part])
  else .error .badName

/-- Follows the parts of a path; what they lead to need not be there. -/
def follow (d : Disk) (l : Location) : List String → Except FileError Location
  | [] => .ok l
  | part :: rest => do
    d.opensAt l
    let l ← stepTo l part
    follow d l rest

/-- The location that a path leads to, whether something is there or not. -/
def locate (d : Disk) (path : String) : Except FileError Location :=
  if path = "" then .error .notFound
  else if pathFits path then
    d.follow (if Path.isAbsolute path then [] else d.home) (Path.parts path)
  else .error .badName

/-- What a path leads to. -/
def find (d : Disk) (path : String) : Except FileError Entry := do
  let l ← d.locate path
  match d.entryAt l with
  | some e => .ok e
  | none => .error .notFound

/-! ### Reading -/

/-- Whether a path leads to anything. -/
def pathExists (d : Disk) (path : String) : Bool :=
  (d.find path).isOk

/-- Whether a path leads to a file. -/
def isFile (d : Disk) (path : String) : Bool :=
  match d.find path with
  | .ok .folder => false
  | .ok _ => true
  | .error _ => false

/-- The content of a file. -/
def readBytes (d : Disk) (path : String) : Except FileError ByteArray := do
  match ← d.find path with
  | .file content => .ok content
  | .locked => .error .refused
  | .folder => .error .isFolder

/-- The content of a file of text. -/
def readText (d : Disk) (path : String) : Except FileError String := do
  match String.fromUTF8? (← d.readBytes path) with
  | some text => .ok text
  | none => .error .notText

/-- The names within a folder. -/
def namesWithin (d : Disk) (l : Location) : List String :=
  d.entries.filterMap fun e => if e.1 ≠ [] ∧ e.1.dropLast = l then e.1.getLast? else none

/-- The names within the folder at a path. -/
def listFolder (d : Disk) (path : String) : Except FileError (List String) := do
  let l ← d.locate path
  d.opensAt l
  if d.hides l then .error .refused else return d.namesWithin l

/-! ### Folders -/

/-- Follows the parts of a path and makes the folders that are not there. -/
def makeAlong (d : Disk) (l : Location) : List String → Except FileError Unit × Disk
  | [] => (.ok (), d)
  | part :: rest =>
    match stepTo l part with
    | .error e => (.error e, d)
    | .ok l =>
      match d.entryAt l with
      | some .folder => makeAlong d l rest
      | some _ => (.error .notFolder, d)
      | none => makeAlong (d.put l .folder) l rest

/-- Makes the folder at a path and those above it, where they are not there.
The folders made before an error remain. -/
def makeFolders (d : Disk) (path : String) : Except FileError Unit × Disk :=
  if pathFits path then
    d.makeAlong (if Path.isAbsolute path then [] else d.home) (Path.parts path)
  else (.error .badName, d)

/-! ### Files and folders by hand -/

/-- Writes a file at once, and makes the folders above it. -/
def writeFile (d : Disk) (path : String) (content : ByteArray) : Except FileError Unit × Disk :=
  match d.makeFolders (Path.folder path) with
  | (.error e, d) => (.error e, d)
  | (.ok (), d) =>
    match d.locate path with
    | .error e => (.error e, d)
    | .ok l =>
      if d.entryAt l = some .folder then (.error .isFolder, d)
      else (.ok (), d.put l (.file content))

/-- Removes what is at a path, with all that is below it. -/
def remove (d : Disk) (path : String) : Except FileError Unit × Disk :=
  match d.locate path with
  | .error e => (.error e, d)
  | .ok l =>
    if (d.entryAt l).isNone then (.error .notFound, d)
    else (.ok (), { d with entries := d.entries.filter fun e => !l.isPrefixOf e.1 })

/-- Where a path leads if every folder on its way is there. -/
def place (d : Disk) (path : String) : Location :=
  (Path.parts path).foldl (fun l part => (stepTo l part).toOption.getD l)
    (if Path.isAbsolute path then [] else d.home)

/-- The entries that another disk does not have, or has otherwise. -/
def since (old new : Disk) : List (Location × Entry) :=
  new.entries.filter fun e => old.entryAt e.1 ≠ some e.2

/-- The path from a folder to an entry below it; a slash at its end marks a
folder. -/
def pathFrom (l : Location) (e : Location × Entry) : Option String :=
  if l.isPrefixOf e.1 ∧ e.1 ≠ l then
    let path := "/".intercalate (e.1.drop l.length)
    some (if e.2 = .folder then path ++ "/" else path)
  else none

/-- The paths of all that is below the working folder, in order. -/
def contents (d : Disk) : List String :=
  (d.entries.filterMap (pathFrom d.home)).mergeSort fun a b => a ≤ b

end Disk
end Tabletop
