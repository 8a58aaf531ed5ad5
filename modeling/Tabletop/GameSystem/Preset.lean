/-
# Reference systems

Two game systems that need no file.

Key definitions: `GameSystem.dnd5e`, `GameSystem.cyberpunkRed`.
-/
import Tabletop.GameSystem.Basic

namespace Tabletop
namespace GameSystem

/-- D&D 5th edition: a d20 and the classic ability modifier; proficient skills
add the proficiency bonus. -/
def dnd5e : GameSystem where
  key := "dnd5e"
  name := "D&D 5e"
  attributes := ["str", "dex", "con", "int", "wis", "cha"]
  skills := .ofList [
    ("acrobatics", "dex"), ("animal_handling", "wis"), ("arcana", "int"), ("athletics", "str"),
    ("deception", "cha"), ("history", "int"), ("insight", "wis"), ("intimidation", "cha"),
    ("investigation", "int"), ("medicine", "wis"), ("nature", "int"), ("perception", "wis"),
    ("performance", "cha"), ("persuasion", "cha"), ("religion", "int"),
    ("sleight_of_hand", "dex"), ("stealth", "dex"), ("survival", "wis")]
  formula := .linearMod
  composition := .proficiencyGated
  diceText := "1d20"
  primary := ⟨1, 20, 0⟩

/-- Cyberpunk RED: a d10 and the raw stat; skills add their level. -/
def cyberpunkRed : GameSystem where
  key := "cyberpunkRed"
  name := "Cyberpunk RED"
  attributes := ["int", "ref", "dex", "tech", "cool", "will", "luck", "move", "body", "emp"]
  skills := .ofList [
    ("athletics", "dex"), ("basic_tech", "tech"), ("brawling", "dex"), ("concentration", "will"),
    ("conversation", "emp"), ("cybertech", "tech"), ("drive_land_vehicle", "ref"),
    ("education", "int"), ("evasion", "dex"), ("first_aid", "tech"), ("handgun", "ref"),
    ("human_perception", "emp"), ("interrogation", "cool"), ("melee_weapon", "dex"),
    ("perception", "int"), ("persuasion", "cool"), ("resist_torture_drugs", "will"),
    ("shoulder_arms", "ref"), ("stealth", "dex"), ("streetwise", "cool"), ("tracking", "int")]
  formula := .directStat
  composition := .statSum
  diceText := "1d10"
  primary := ⟨1, 10, 0⟩

end GameSystem
end Tabletop
