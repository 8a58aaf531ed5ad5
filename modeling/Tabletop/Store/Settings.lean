/-
# Group settings

What a group of players has chosen: the game system that its checks are made
in, and a dice style. All the groups share one file, which every change writes
anew.

Key definitions: `GroupSettings`, `SettingsStore`, `SettingsStore.get`,
`SettingsStore.setActiveSystem`, `SettingsStore.setDiceStyle`.
-/
import Tabletop.Store.Files

namespace Tabletop

/-- What one group has chosen. -/
structure GroupSettings where
  activeSystem : Option String
  diceStyle : Option String
  deriving DecidableEq, Repr

namespace GroupSettings

/-- Nothing chosen. -/
def empty : GroupSettings := ⟨none, none⟩

/-- Reads the settings of a group. -/
def read : Json.Reader GroupSettings := fun source d => do
  let form ← Json.readForm "struct GroupSettings" [
    .withDefault "activeSystem" (Json.option Json.text) [],
    .withDefault "diceStyle" (Json.option Json.text) []] source d
  return {
    activeSystem := ← form.get source "activeSystem" (Json.option Json.text) none
    diceStyle := ← form.get source "diceStyle" (Json.option Json.text) none }

/-- The settings of a group as an object; what is not chosen is left out. -/
def json (s : GroupSettings) : Json := .object (
  Json.optional "activeSystem" .string s.activeSystem ++
  Json.optional "diceStyle" .string s.diceStyle)

end GroupSettings

/-- The file with the settings of all groups. -/
structure SettingsStore where
  path : String

namespace SettingsStore

/-- The settings of all groups; none if there is no file. -/
def all (s : SettingsStore) (d : Disk) : Except StoreError (KeyMap GroupSettings) := do
  return (← d.readJson s.path (Json.map GroupSettings.read)).getD ∅

/-- The settings of one group. -/
def get (s : SettingsStore) (d : Disk) (group : String) : Except StoreError GroupSettings := do
  return ((← s.all d).get? group).getD .empty

/-- The system that a group has chosen. -/
def activeSystem (s : SettingsStore) (d : Disk) (group : String) : Except StoreError String := do
  match (← s.get d group).activeSystem with
  | some key => return key
  | none => .error (.noActiveSystem group)

/-- Changes the settings of one group. -/
def update (s : SettingsStore) (d : Disk) (group : String)
    (change : GroupSettings → GroupSettings) : Except StoreError Unit × Disk :=
  match s.all d with
  | .error e => (.error e, d)
  | .ok groups =>
    d.saveJson s.path (Json.ofMap GroupSettings.json (groups.update group .empty change))

/-- Makes a system of the catalog the one of a group; gives the key as the
catalog spells it, which is what is stored. -/
def setActiveSystem (s : SettingsStore) (d : Disk) (group key : String) (c : Catalog) :
    Except StoreError String × Disk :=
  match c.get key with
  | .error e => (.error (.unknownSystem e), d)
  | .ok g =>
    match s.update d group fun settings => { settings with activeSystem := some g.key } with
    | (.ok (), d) => (.ok g.key, d)
    | (.error e, d) => (.error e, d)

/-- Sets the dice style of a group, or clears it. -/
def setDiceStyle (s : SettingsStore) (d : Disk) (group : String) (style : Option String) :
    Except StoreError Unit × Disk :=
  s.update d group fun settings => { settings with diceStyle := style }

end SettingsStore
end Tabletop
