/-
# Formulas of a game system

How a raw attribute score becomes a bonus, and how a skill combines the bonus
of its attribute with what the character knows of the skill. Both are chosen by
name; a name that is not known stands for the plainest choice.

Key definitions: `ModifierFormula`, `ModifierFormula.apply`,
`SkillComposition`, `SkillComposition.impliedBy`.
-/
import Tabletop.Key

namespace Tabletop

/-- How a raw score becomes a bonus. -/
inductive ModifierFormula where
  | linearMod
  | directStat
  | addRaw
  deriving DecidableEq, Repr

namespace ModifierFormula

/-- The bonus of a score: half of what it exceeds ten by, rounded down, or the
score itself. -/
def apply (f : ModifierFormula) (score : Int32) : Int64 :=
  match f with
  | linearMod => .ofInt ((score.toInt - 10) / 2)
  | directStat => score.toInt64
  | addRaw => score.toInt64

/-- The formula with a name, in any case and with any blanks; two older
spellings are known, and any other name stands for the raw score. -/
def ofName (name : String) : ModifierFormula :=
  let compact := String.ofList (Text.lowerEach (Text.squeeze name.toList))
  if ["linear_mod", "linearmod", "(score-10)/2"].contains compact then linearMod
  else if ["direct_stat", "directstat", "score_is_modifier"].contains compact then directStat
  else addRaw

/-- The name of a formula. -/
def name : ModifierFormula → String
  | linearMod => "LINEAR_MOD"
  | directStat => "DIRECT_STAT"
  | addRaw => "ADD_RAW"

end ModifierFormula

/-- How a skill check combines the attribute with the skill. -/
inductive SkillComposition where
  | proficiencyGated
  | statSum
  | modifierPlusLevel
  deriving DecidableEq, Repr

namespace SkillComposition

/-- The composition with a name, as names are normalized; any other name
stands for the modifier plus the level. -/
def ofName (name : String) : SkillComposition :=
  let key := Key.normalize name
  if key == "proficiency_gated" then proficiencyGated
  else if key == "stat_sum" then statSum
  else modifierPlusLevel

/-- The name of a composition. -/
def name : SkillComposition → String
  | proficiencyGated => "PROFICIENCY_GATED"
  | statSum => "STAT_SUM"
  | modifierPlusLevel => "MODIFIER_PLUS_LEVEL"

/-- The composition that goes with a formula where none is named. -/
def impliedBy : ModifierFormula → SkillComposition
  | .linearMod => proficiencyGated
  | .directStat => statSum
  | .addRaw => modifierPlusLevel

end SkillComposition
end Tabletop
