/-
# Loading a catalog

The text of a catalog is a JSON object with a source for each key. Each entry
is judged on its own: a source that cannot be read or is inconsistent is
dropped and listed, and the others are kept.

Key definitions: `CatalogError`, `Verdict`, `Catalog.judgeAll`,
`Catalog.ofVerdicts`, `Catalog.ofText`.
-/
import Tabletop.Catalog.Basic
import Tabletop.GameSystem.Json

namespace Tabletop

/-- Why a whole catalog cannot be loaded. -/
inductive CatalogError where
  | unreadable (path reason : String)
  | notJson
  | notObject
  deriving DecidableEq, Repr

/-- The error as the user sees it. -/
def CatalogError.message : CatalogError → String
  | unreadable path reason => s!"cannot load game systems: {path}: {reason}"
  | notJson => "cannot load game systems: not a JSON text"
  | notObject => "cannot load game systems: expected an object of game systems"

/-- What became of one entry. -/
structure Verdict where
  key : String
  result : Except SystemError GameSystem

/-- What is worth a warning while a catalog is loaded. -/
inductive CatalogNotice where
  | noSkills (system : String)
  | dropped (system : String) (error : SystemError)
  deriving DecidableEq, Repr

/-- The warning as it is logged. -/
def CatalogNotice.message : CatalogNotice → String
  | noSkills system => s!"{SystemIssue.noSkills.message} system={Text.quoted system}"
  | dropped system error => s!"dropping game system system={system} error={error.message}"

/-- The warnings that one entry gives rise to. -/
def Verdict.notices (v : Verdict) : List CatalogNotice :=
  match v.result with
  | .ok g => (g.issues.filter (!·.isError)).map fun _ => .noSkills v.key
  | .error e => [.dropped v.key e]

namespace Catalog

/-- Judges the draft of one source. -/
def judge (key : String) (d : Json.Draft) : Except SystemError GameSystem :=
  match SystemSource.read .tree d with
  | .error e => .error ⟨key, .unreadable e⟩
  | .ok s => GameSystem.ofSource key s

/-- Judges the members of an object, one after the other. -/
def judgeMembers : Json.Members → List Verdict
  | .cons (.string key) d tail => ⟨key, judge key d⟩ :: judgeMembers tail
  | _ => []

/-- Judges the entries of a catalog's text, in the order of the keys. -/
def judgeAll (text : String) : Except CatalogError (List Verdict) :=
  match Json.tree text with
  | .error _ => .error .notJson
  | .ok (.object members) => .ok (judgeMembers members)
  | .ok _ => .error .notObject

/-- Enters one verdict into a catalog. -/
def enter (c : Catalog) (v : Verdict) : Catalog :=
  match v.result with
  | .ok g => c.add g
  | .error e => c.reject ⟨v.key, e⟩

/-- The catalog of the verdicts on its entries. -/
def ofVerdicts (vs : List Verdict) : Catalog :=
  vs.foldl enter empty

/-- The catalog that a text describes. -/
def ofText (text : String) : Except CatalogError Catalog :=
  (judgeAll text).map ofVerdicts

end Catalog
end Tabletop
