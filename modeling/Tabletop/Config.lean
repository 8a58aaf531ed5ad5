/-
# Configuration

Where the data are, and what holds where a command does not say otherwise. A
configuration is a TOML document with any of the fields; the others keep their
defaults, and what is not a field does not count.

Key definitions: `Config`, `Config.ofText`, `Config.load`,
`Config.loadCatalog`.
-/
import Tabletop.Dice.Policy
import Tabletop.Store.Characters
import Tabletop.Store.Styles
import Tabletop.Toml.Reader

namespace Tabletop

/-- The places of the data and the defaults of the commands. -/
structure Config where
  dataFolder : String
  catalogFile : Option String
  assetsFolder : String
  diceStyle : String
  group : String
  freeDice : UInt32
  deriving DecidableEq, Repr

namespace Config

/-- What holds where nothing is configured. -/
def default : Config where
  dataFolder := "data"
  catalogFile := none
  assetsFolder := "assets/dice_images"
  diceStyle := defaultDiceStyle
  group := "default"
  freeDice := 10

/-! ### Reading -/

/-- A field that is a text, or what holds without it. -/
def textField (t : Toml.Table) (name default : String) : Option String :=
  match t.lookup name with
  | none => some default
  | some (.text s) => some s
  | some _ => none

/-- A field that is a number of 32 bits, or what holds without it. -/
def numberField (t : Toml.Table) (name : String) (default : UInt32) : Option UInt32 :=
  match t.lookup name with
  | none => some default
  | some (.integer n) => if 0 ≤ n ∧ n < UInt32.size then some (.ofNat n.toNat) else none
  | some _ => none

/-- The catalog file that a document names. -/
def catalogField (t : Toml.Table) : Option (Option String) :=
  match t.lookup "catalog_path" with
  | none => some none
  | some (.text s) => some (some s)
  | some _ => none

/-- The configuration in a table. -/
def ofTable (t : Toml.Table) : Option Config := do
  return {
    dataFolder := ← textField t "data_dir" default.dataFolder
    catalogFile := ← catalogField t
    assetsFolder := ← textField t "assets_dir" default.assetsFolder
    diceStyle := ← textField t "default_dice_style" default.diceStyle
    group := ← textField t "default_group" default.group
    freeDice := ← numberField t "free_roll_max_dice" default.freeDice }

/-- The configuration in a document. -/
def ofText (text : String) : Except StoreError Config :=
  match (Toml.read text).bind ofTable with
  | some c => .ok c
  | none => .error .config

/-- The configuration in a file, which has to be there. -/
def load (d : Disk) (path : String) : Except StoreError Config :=
  match d.readText path with
  | .ok text => ofText text
  | .error e => .error (.file e)

/-! ### Places -/

/-- The configuration with another folder for the data. -/
def withDataFolder (c : Config) (path : String) : Config :=
  { c with dataFolder := path }

/-- The configuration with a file for the catalog. -/
def withCatalogFile (c : Config) (path : String) : Config :=
  { c with catalogFile := some path }

/-- The configuration with another group where none is named. -/
def withGroup (c : Config) (group : String) : Config :=
  { c with group }

/-- The file of the catalog. -/
def catalogPath (c : Config) : String :=
  c.catalogFile.getD (Path.join c.dataFolder "game_systems.json")

/-- The stored characters. -/
def characters (c : Config) : CharacterStore :=
  ⟨Path.join c.dataFolder "characters"⟩

/-- The stored settings of the groups. -/
def settings (c : Config) : SettingsStore :=
  ⟨Path.join c.dataFolder "server_settings.json"⟩

/-- The file with the names of the dice styles. -/
def stylesPath (c : Config) : String :=
  Path.join c.dataFolder "dice_styles.json"

/-- The images of the dice. -/
def faces (c : Config) : DiceFaces :=
  ⟨c.assetsFolder⟩

/-- What may be thrown freely. -/
def policy (c : Config) : RollPolicy :=
  RollPolicy.freeRoll.withMaxDice c.freeDice

/-- The verdicts on the systems of the catalog file, if there is one. -/
def verdicts (c : Config) (d : Disk) : Except CatalogError (Option (List Verdict)) :=
  if d.pathExists c.catalogPath then (d.loadVerdicts c.catalogPath).map some else .ok none

/-- The catalog that verdicts make up, or the reference systems. -/
def catalogOf (verdicts : Option (List Verdict)) : Catalog :=
  match verdicts with
  | some vs => Catalog.ofVerdicts vs
  | none => Catalog.builtin

/-- The catalog in its file, or the reference systems if there is no file. -/
def loadCatalog (c : Config) (d : Disk) : Except CatalogError Catalog :=
  (c.verdicts d).map catalogOf

end Config
end Tabletop
