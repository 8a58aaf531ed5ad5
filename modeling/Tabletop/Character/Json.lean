/-
# Characters as JSON

A record is an object with its name and its system; all its other fields have
defaults. The proficiency flags may stand under `skillProficiency` or
`skills_proficiency`.

Key definitions: `Character.read`, `Character.json`.
-/
import Tabletop.Character.Basic
import Tabletop.Json.Decode

namespace Tabletop
namespace Character

open Json (Reader Field Form)

/-- The fields of a record. -/
def fields : List Field := [
  .needed "name" Json.text,
  .needed "system" Json.text,
  .withDefault "attributes" (Json.map Json.int32) [],
  .withDefault "skills" (Json.map Json.int32) [],
  .withDefault "skillProficiency" (Json.map Json.truth) ["skills_proficiency"],
  .withDefault "proficiencyBonus" Json.int32 [],
  .withDefault "diceStyle" (Json.option Json.text) []]

/-- The record that a form describes. -/
def ofForm (form : Form) (source : Json.Source) : Except Json.ReadError Character := do
  return {
    name := ← form.need source "name" Json.text
    system := ← form.need source "system" Json.text
    attributes := ← form.get source "attributes" (Json.map Json.int32) ∅
    skills := ← form.get source "skills" (Json.map Json.int32) ∅
    proficiency := ← form.get source "skillProficiency" (Json.map Json.truth) ∅
    proficiencyBonus := ← form.get source "proficiencyBonus" Json.int32 0
    diceStyle := ← form.get source "diceStyle" (Json.option Json.text) none }

/-- Reads a record. -/
def read : Reader Character := fun source d => do
  ofForm (← Json.readForm "struct CharacterRecord" fields source d) source

/-- A record as an object; the dice style is left out where there is none. -/
def json (c : Character) : Json := .object (
  [("name", .string c.name),
    ("system", .string c.system),
    ("attributes", .ofMap (fun n : Int32 => .number n.toInt) c.attributes),
    ("skills", .ofMap (fun n : Int32 => .number n.toInt) c.skills),
    ("skillProficiency", .ofMap .bool c.proficiency),
    ("proficiencyBonus", .number c.proficiencyBonus.toInt)] ++
  Json.optional "diceStyle" .string c.diceStyle)

end Character
end Tabletop
