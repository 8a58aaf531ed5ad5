/-
# Stored characters

Records are kept in one folder, each in a file named for the character and the
system: Garra in `dnd5e` is in `garra_dnd5e.json`. Names and systems that
would lead out of the folder are refused.

Key definitions: `CharacterStore`, `CharacterStore.path`,
`CharacterStore.load`, `CharacterStore.saveAs`, `CharacterStore.list`.
-/
import Tabletop.Character.Json
import Tabletop.Check.Choice
import Tabletop.Store.Files

namespace Tabletop

/-- The records in a folder. -/
structure CharacterStore where
  folder : String

namespace CharacterStore

/-- The name of the file for a character in a system. -/
def fileName (name system : String) : String :=
  s!"{Key.normalize name}_{system}.json"

/-- Whether a part of a file name would lead elsewhere. -/
def leadsAway (part : String) : Bool :=
  let cs := part.toList
  cs.contains '/' || cs.contains '\\' || Text.occursIn ['.', '.'] cs

/-- The path of the file for a character in a system. -/
def path (s : CharacterStore) (name system : String) : Except StoreError String :=
  let key := Key.normalize name
  if key = "" then .error (.invalidRecord .noName)
  else if Text.squeeze system.toList = [] then .error (.invalidRecord (.noSystem name))
  else if leadsAway key then .error (.invalidRecord (.badPart key))
  else if leadsAway system then .error (.invalidRecord (.badPart system))
  else .ok (Path.join s.folder (fileName name system))

/-- The record of a character, none if there is no file for it. -/
def find (s : CharacterStore) (d : Disk) (name system : String) :
    Except StoreError (Option Character) := do
  d.readJson (← s.path name system) Character.read

/-- The record of a character. -/
def load (s : CharacterStore) (d : Disk) (name system : String) :
    Except StoreError Character := do
  let path ← s.path name system
  match ← d.readJson path Character.read with
  | some c => return c
  | none => .error (.characterNotFound name system path)

/-- Stores a record in the file for a name in a system, whatever the record
itself says; gives the path of the file. -/
def saveAs (s : CharacterStore) (d : Disk) (name system : String) (c : Character) :
    Except StoreError String × Disk :=
  match s.path name system with
  | .error e => (.error e, d)
  | .ok path =>
    match d.saveJson path c.json with
    | (.ok (), d) => (.ok path, d)
    | (.error e, d) => (.error e, d)

/-- Stores a record in the file for its own name and system. -/
def save (s : CharacterStore) (d : Disk) (c : Character) : Except StoreError String × Disk :=
  s.saveAs d c.name c.system c

/-- The text before an ending. -/
def withoutEnding (ending cs : List Char) : Option (List Char) :=
  if ending.isSuffixOf cs then some (cs.take (cs.length - ending.length)) else none

/-- The name in a file name that belongs to a system. -/
def nameWithin (system file : String) : Option String :=
  match withoutEnding s!"_{system}.json".toList file.toList with
  | some [] => none
  | some cs => some (String.ofList cs)
  | none => none

/-- The normalized names of the characters stored for a system, ascending. -/
def list (s : CharacterStore) (d : Disk) (system : String) : Except StoreError (List String) :=
  match d.listFolder s.folder with
  | .ok files => .ok ((files.filterMap (nameWithin system)).mergeSort fun a b => a ≤ b)
  | .error .notFound => .ok []
  | .error e => .error (.file e)

/-- Stored names as choices. -/
def choicesOf (names : List String) (typed : String) : List Choice :=
  Choice.filter (names.map fun n => ⟨Key.display n, n⟩) typed

/-- The characters stored for a system that match what was typed; none where
they cannot be listed. -/
def choices (s : CharacterStore) (d : Disk) (system typed : String) : List Choice :=
  match s.list d system with
  | .ok names => choicesOf names typed
  | .error _ => []

end CharacterStore
end Tabletop
