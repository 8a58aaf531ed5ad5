/-
# Planning a command

A command first reads the disk and tells what there is to tell; what it then
changes, if anything, is one change that it names. So a command that names none
leaves the disk alone.

Key definitions: `Change`, `Action.plan`.
-/
import Tabletop.Command.Journal
import Tabletop.Command.Request
import Tabletop.Command.Table
import Tabletop.Character.Review
import Tabletop.Check.Json
import Tabletop.Check.Resolution
import Tabletop.Dice.Roll

namespace Tabletop
namespace Command

/-- The one change of a command. -/
inductive Change where
  | none
  | activeSystem (group key : String) (catalog : Catalog)
  | groupStyle (group style : String)
  | characterStyle (name system : String) (record : Character) (style : String)

/-- What a command works with: the configuration, the dice and the disk. -/
structure Context where
  config : Config
  dice : DieSource
  disk : Disk

namespace Context

/-- The group that is named, or the one of the configuration. -/
def group (x : Context) (named : Option String) : String :=
  named.getD x.config.group

/-- The catalog, with warnings on its entries. -/
def catalog (x : Context) : Telling Catalog := do
  let verdicts ← need ((x.config.verdicts x.disk).mapError .catalog)
  ((verdicts.getD []).flatMap Verdict.notices).forM fun n => warn n.message
  return Config.catalogOf verdicts

/-- A system of the catalog. -/
def lookUp (c : Catalog) (key : String) : Telling GameSystem :=
  need ((c.get key).mapError .unknownSystem)

/-- The key, as the catalog spells it, of the system that is named, or of the
one of a group. -/
def systemKey (x : Context) (c : Catalog) (named : Option String) (group : String) :
    Telling String := do
  let requested ← match named with
    | some key => pure key
    | none => need (x.config.settings.activeSystem x.disk group)
  return (← lookUp c requested).key

/-- The name of a stored character and its system, with the record. -/
def character (x : Context) (name : String) (system : Option String) (group : String) :
    Telling (String × Character) := do
  let key ← x.systemKey (← x.catalog) system group
  return (key, ← need (x.config.characters.load x.disk name key))

/-! ### Checks and rolls -/

/-- The lines of an outcome. -/
def outcomeLines (o : Outcome) : List String := [
  s!"  {o.character} rolls {Key.display o.resolution.check} ({o.system})",
  "",
  s!"  dice:   {o.roll.text}",
  s!"  bonus:  {Term.signed o.resolution.bonus}  {o.resolution.description}",
  s!"  total:  {o.total}"]

/-- Makes a check. -/
def check (x : Context) (name requested : String) (system : Option String) (group : String) :
    Telling Unit := do
  let catalog ← x.catalog
  let key ← x.systemKey catalog system group
  let g ← lookUp catalog key
  let record ← need (x.config.characters.load x.disk name g.key)
  (record.review g).forM fun i =>
    warn (logText (issueText i.isError record.name i.message))
  match (perform g record requested x.dice.next 0).1 with
  | .error e => throw (.check e)
  | .ok outcome => (outcomeLines outcome).forM say

/-- The lines of a roll. -/
def rollLines (r : Roll) : List String := [
  s!"  {r.text}",
  "",
  s!"  rolls:     {r.joined}",
  s!"  sum:       {r.sum}",
  s!"  modifier:  {Term.signed r.modifier.toInt64}",
  s!"  total:     {r.total}"]

/-- Tells the faces of a roll in the style of a group. -/
def tellFaces (x : Context) (r : Roll) (group : String) : Telling Unit := do
  let settings ← need (x.config.settings.get x.disk group)
  let style := effectiveStyle Option.none settings x.config.diceStyle
  say ""
  say s!"  Faces ({style})"
  (x.config.faces.ofRoll x.disk style r).forM fun f => say s!"    {f.text}"

/-- Throws dice freely, within the policy unless it is lifted. -/
def roll (x : Context) (text : String) (unrestricted faces : Bool) (group : String) :
    Telling Unit := do
  let policy := if unrestricted then RollPolicy.unrestricted else x.config.policy
  match policy.parse text with
  | .error e => throw (.dice e)
  | .ok dice =>
    let r := dice.roll x.dice
    (rollLines r).forM say
    if faces then x.tellFaces r group

/-! ### Listings -/

/-- The cells of a game system in the table of all. -/
def systemCells (g : GameSystem) : List String :=
  [g.key, g.name, g.primary.text, toString g.attributes.length, toString g.skills.size,
    g.formula.name, g.composition.name]

/-- The heading of the table of game systems. -/
def systemHeading : List String :=
  ["Key", "Name", "Dice", "Attributes", "Skills", "Modifier", "Skill bonus"]

/-- Lists the game systems, and those that were dropped. -/
def systems (x : Context) : Telling Unit := do
  let catalog ← x.catalog
  if catalog.isEmpty then say "  No game systems found."
  else
    (Grid.lines systemHeading (catalog.toList.map systemCells)).forM say
    say ""
    say s!"  {catalog.size} systems"
  catalog.rejected.forM fun r => say s!"  skipped {r.key}: {r.error.message}"

/-- A text filled up with blanks to 24 characters. -/
def inColumn (text : String) : String :=
  text ++ String.ofList (List.replicate (24 - text.length) ' ')

/-- Lists the characters stored for a system. -/
def characters (x : Context) (system : Option String) (group : String) : Telling Unit := do
  let key ← x.systemKey (← x.catalog) system group
  let names ← need (x.config.characters.list x.disk key)
  if names.isEmpty then say s!"  No characters for {key}."
  else
    names.forM fun n => say s!"  {inColumn (Key.display n)} {CharacterStore.fileName n key}"
    say ""
    say s!"  {names.length} characters"

/-- Lists the dice styles and stars the one in effect. -/
def listStyles (x : Context) (styles : DiceStyles) (record : Option Character) (group : String) :
    Telling Unit := do
  let settings ← need (x.config.settings.get x.disk group)
  let current := effectiveStyle record settings x.config.diceStyle
  styles.names.forM fun name =>
    say (if name = current then s!"  * {name}" else s!"    {name}")

/-- Lists the dice styles, or sets one for a character or a group. -/
def diceStyle (x : Context) (style name system : Option String) (group : String) :
    Telling Change := do
  let styles ← need (DiceStyles.load x.disk x.config.stylesPath)
  let found ← match name with
    | some name => do
      let (key, record) ← x.character name system group
      pure (some (name, key, record))
    | Option.none => pure Option.none
  match style with
  | Option.none =>
    x.listStyles styles (found.map (·.2.2)) group
    return .none
  | some style =>
    need (styles.validate style)
    match found with
    | some (name, key, record) => return .characterStyle name key record style
    | Option.none => return .groupStyle group style

/-! ### Suggestions -/

/-- A list that is empty, with a warning, where it cannot be had. -/
def orWarn (message : String) (choices : Telling (List Choice)) : Telling (List Choice) :=
  tryCatch choices fun e => do
    warn s!"{message} error={e.message}"
    return []

/-- Suggests checks. -/
def suggestChecks (x : Context) (typed : String) (system : Option String) (group : String) :
    Telling (List Choice) :=
  orWarn "no check suggestions" do
    let catalog ← x.catalog
    let key ← x.systemKey catalog system group
    return (← lookUp catalog key).choices typed

/-- Suggests characters of a system. -/
def storedChoices (x : Context) (key typed : String) : Telling (List Choice) := do
  let store := x.config.characters
  match store.list x.disk key with
  | .ok _ => pure ()
  | .error e => warn s!"cannot list characters error={e.message} dir={store.folder}"
  return store.choices x.disk key typed

/-- Suggests characters. -/
def suggestCharacters (x : Context) (typed : String) (system : Option String) (group : String) :
    Telling (List Choice) :=
  orWarn "no character suggestions" do
    let key ← x.systemKey (← x.catalog) system group
    x.storedChoices key typed

/-- Writes choices as text or as JSON. -/
def tellChoices (choices : List Choice) (json : Bool) : Telling Unit :=
  if json then say (Json.array (choices.map Choice.json)).pretty
  else choices.forM fun c => say s!"{c.name}\t{c.value}"

end Context

/-! ### Commands -/

/-- Reads the disk for a command, tells what it finds, and names the change
that the command makes. -/
def Action.plan (x : Context) : Action → Telling Change
  | .check character requested system group => do
    x.check character requested system (x.group group)
    return .none
  | .roll dice unrestricted faces group => do
    x.roll dice unrestricted faces (x.group group)
    return .none
  | .setSystem key group => return .activeSystem (x.group group) key (← x.catalog)
  | .systems => do
    x.systems
    return .none
  | .characters system group => do
    x.characters system (x.group group)
    return .none
  | .diceStyle style character system group => x.diceStyle style character system (x.group group)
  | .suggest .checks typed system group json => do
    Context.tellChoices (← x.suggestChecks typed system (x.group group)) json
    return .none
  | .suggest .characters typed system group json => do
    Context.tellChoices (← x.suggestCharacters typed system (x.group group)) json
    return .none

end Command
end Tabletop
