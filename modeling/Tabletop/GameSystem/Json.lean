/-
# Game systems as JSON

A source is an object with any of the fields `name`, `attributes`, `skills`,
`modifierFormula` (or `attributeModifierFormula`), `skillComposition`,
`diceNotation` and `dice`. A game system is written with its key, in the same
fields.

Key definitions: `SystemSource.read`, `GameSystem.json`.
-/
import Tabletop.GameSystem.Source

namespace Tabletop

open Json (Reader Field Form)

/-- Reads a formula by its name. -/
def ModifierFormula.read : Reader ModifierFormula := fun source d =>
  (Json.text source d).map ModifierFormula.ofName

/-- Reads a composition by its name. -/
def SkillComposition.read : Reader SkillComposition := fun source d =>
  (Json.text source d).map SkillComposition.ofName

/-- A formula as its name. -/
def ModifierFormula.json (f : ModifierFormula) : Json := .string f.name

/-- A composition as its name. -/
def SkillComposition.json (c : SkillComposition) : Json := .string c.name

/-- Reads the older block with the dice of the primary check. -/
def readDiceBlock : Reader (Option String) := fun source d => do
  let form ← Json.readForm "struct RawDice"
    [.needed "primaryCheck" (Json.option Json.text)] source d
  form.get source "primaryCheck" (Json.option Json.text) none

namespace SystemSource

/-- The fields of a source. -/
def fields : List Field := [
  .needed "name" (Json.option Json.text),
  .withDefault "attributes" (Json.list Json.text) [],
  .withDefault "skills" (Json.map Json.text) [],
  .withDefault "modifierFormula" (Json.option ModifierFormula.read) ["attributeModifierFormula"],
  .withDefault "skillComposition" (Json.option SkillComposition.read) [],
  .withDefault "diceNotation" (Json.option Json.text) [],
  .withDefault "dice" (Json.option readDiceBlock) []]

/-- The source that a form describes. -/
def ofForm (form : Form) (source : Json.Source) : Except Json.ReadError SystemSource := do
  return {
    name := ← form.get source "name" (Json.option Json.text) none
    attributes := ← form.get source "attributes" (Json.list Json.text) []
    skills := ← form.get source "skills" (Json.map Json.text) ∅
    formula := ← form.get source "modifierFormula" (Json.option ModifierFormula.read) none
    composition := ← form.get source "skillComposition" (Json.option SkillComposition.read) none
    diceText := ← form.get source "diceNotation" (Json.option Json.text) none
    dice := ← form.get source "dice" (Json.option readDiceBlock) none }

/-- Reads a source. -/
def read : Reader SystemSource := fun source d => do
  ofForm (← Json.readForm "struct RawDefinition" fields source d) source

end SystemSource

/-- A game system as an object. -/
def GameSystem.json (g : GameSystem) : Json := .object [
  ("key", .string g.key),
  ("name", .string g.name),
  ("attributes", .strings g.attributes),
  ("skills", .ofMap .string g.skills),
  ("modifierFormula", g.formula.json),
  ("skillComposition", g.composition.json),
  ("diceNotation", .string g.diceText)]

end Tabletop
