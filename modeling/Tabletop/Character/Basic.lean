/-
# Characters

The record of a character within one game system. An entry is found by its
key as it stands, or else by the first key that normalizes to the same one, so
files with keys such as `STR` or `Sleight of Hand` serve as well.

Key definitions: `Character`, `Character.score`, `Character.level`,
`Character.isProficient`.
-/
import Tabletop.Key
import Tabletop.KeyMap

namespace Tabletop

/-- The record of a character. -/
structure Character where
  name : String
  system : String
  attributes : KeyMap Int32
  skills : KeyMap Int32
  proficiency : KeyMap Bool
  proficiencyBonus : Int32
  diceStyle : Option String
  deriving DecidableEq, Repr

namespace Character

/-- The value at a key, or at the first key that normalizes to the same. -/
def lookUp {α : Type} (m : KeyMap α) (key : String) : Option α :=
  (m.get? key).or
    ((m.entries.find? fun e => Key.normalize e.1 == Key.normalize key).map (·.2))

/-- The score of an attribute, if the record has one. -/
def score (c : Character) (attr : String) : Option Int32 :=
  lookUp c.attributes attr

/-- The level of a skill, 0 if there is none. -/
def level (c : Character) (skill : String) : Int32 :=
  (lookUp c.skills skill).getD 0

/-- Whether the character is proficient in a skill. -/
def isProficient (c : Character) (skill : String) : Bool :=
  (lookUp c.proficiency skill).getD false

/-- A record without numbers. -/
def blank (name system : String) : Character where
  name
  system
  attributes := ∅
  skills := ∅
  proficiency := ∅
  proficiencyBonus := 0
  diceStyle := none

end Character
end Tabletop
