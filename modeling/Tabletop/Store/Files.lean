/-
# Stored files

A value is stored as laid-out JSON text with a line feed at its end. A file
that is not there is no error when it is read. A catalog is only read, and then
its file must be there.

Key definitions: `StoreError`, `StoreError.message`, `Disk.readJson`,
`Disk.saveJson`, `Disk.loadCatalog`.
-/
import Tabletop.Catalog.Load
import Tabletop.Disk.Save
import Tabletop.Json.Printer

namespace Tabletop

/-! ### Errors -/

/-- Why a name and a system are no place for a record. -/
inductive RecordFault where
  | noName
  | noSystem (name : String)
  | badPart (part : String)
  deriving DecidableEq, Repr

/-- The fault in words. -/
def RecordFault.reason : RecordFault → String
  | noName => "character has no name"
  | noSystem name => s!"character '{name}' has no system"
  | badPart part => s!"'{part}' cannot be used in a file name"

/-- Why stored data cannot be read or written. -/
inductive StoreError where
  | characterNotFound (name system path : String)
  | noActiveSystem (group : String)
  | unknownStyle (style : String) (available : List String)
  | invalidRecord (fault : RecordFault)
  | cannotSave (path : String) (error : FileError)
  | file (error : FileError)
  | data (error : Json.ReadError)
  | config
  | unknownSystem (error : UnknownSystem)
  | catalog (error : CatalogError)
  deriving DecidableEq, Repr

/-- The error as the user sees it. -/
def StoreError.message : StoreError → String
  | characterNotFound name system path =>
    s!"character '{name}' not found for system {system} (expected {path})"
  | noActiveSystem group =>
    s!"no active game system for group '{group}'; pick one with `tirada set-system`"
  | unknownStyle style available =>
    let known := ", ".intercalate available
    s!"unknown dice style '{style}' (available: {known})"
  | invalidRecord fault => s!"invalid record: {fault.reason}"
  | cannotSave path error => s!"cannot save {path}: {error.message}"
  | file error => s!"I/O error: {error.message}"
  | data error => s!"malformed data: {error.message}"
  | config => "malformed config: not a configuration"
  | unknownSystem error => error.message
  | catalog error => error.message

/-! ### Files -/

namespace Disk

/-- The value in a file, none if there is no file. -/
def readJson {α : Type} (d : Disk) (path : String) (r : Json.Reader α) :
    Except StoreError (Option α) :=
  match d.readText path with
  | .ok text =>
    match Json.decode r text with
    | .ok a => .ok (some a)
    | .error e => .error (.data e)
  | .error .notFound => .ok none
  | .error e => .error (.file e)

/-- Stores a value in a file. -/
def saveJson (d : Disk) (path : String) (j : Json) : Except StoreError Unit × Disk :=
  match d.save path j.pretty with
  | (.ok (), d) => (.ok (), d)
  | (.error e, d) => (.error (.cannotSave path e), d)

/-- The verdicts on the entries of the catalog in a file. -/
def loadVerdicts (d : Disk) (path : String) : Except CatalogError (List Verdict) :=
  match d.readText path with
  | .ok text => Catalog.judgeAll text
  | .error e => .error (.unreadable path e.message)

/-- The catalog in a file. -/
def loadCatalog (d : Disk) (path : String) : Except CatalogError Catalog :=
  (d.loadVerdicts path).map Catalog.ofVerdicts

end Disk
end Tabletop
