/-
# Game systems

A game system lists its attributes, in the order in which they are shown, and
its skills, each with the attribute that governs it; it says how scores become
bonuses and which dice a check rolls. Systems differ in these data only.

A system is consistent if it has attributes, none of them empty or listed
twice, if every skill is governed by one of them, and if no skill has the name
of one. That it has no skills is only worth a warning.

Key definitions: `GameSystem`, `GameSystem.issues`, `GameSystem.checkNames`.
-/
import Tabletop.KeyMap
import Tabletop.Dice.Basic
import Tabletop.GameSystem.Formula

namespace Tabletop

/-- The data of a game system. -/
structure GameSystem where
  key : String
  name : String
  attributes : List String
  skills : KeyMap String
  formula : ModifierFormula
  composition : SkillComposition
  diceText : String
  primary : Dice
  deriving DecidableEq, Repr

/-- What can be wrong within a game system. -/
inductive SystemIssue where
  | noAttributes
  | emptyAttribute
  | repeatedAttribute (attr : String)
  | unknownAttribute (skill attr : String)
  | ambiguous (name : String)
  | noSkills
  deriving DecidableEq, Repr

namespace SystemIssue

/-- The issue in words. -/
def message : SystemIssue → String
  | noAttributes => "no attributes defined"
  | emptyAttribute => "empty attribute name"
  | repeatedAttribute attr => s!"attribute '{attr}' is listed twice"
  | unknownAttribute skill attr => s!"skill '{skill}' refers to unknown attribute '{attr}'"
  | ambiguous name => s!"'{name}' is both an attribute and a skill"
  | noSkills => "no skills defined"

/-- Whether the issue makes the system unusable. -/
def isError : SystemIssue → Bool
  | noSkills => false
  | _ => true

end SystemIssue

namespace GameSystem

/-- Whether a key names an attribute. -/
def isAttribute (g : GameSystem) (key : String) : Bool :=
  g.attributes.contains key

/-- The attribute that governs a skill. -/
def skillAttribute (g : GameSystem) (key : String) : Option String :=
  g.skills.get? key

/-- The skills, ascending. -/
def skillNames (g : GameSystem) : List String :=
  g.skills.keys

/-- Everything that can be checked: the attributes, then the skills. -/
def checkNames (g : GameSystem) : List String :=
  g.attributes ++ g.skills.keys

/-- The system with its key, such as `D&D 5e (dnd5e)`. -/
def text (g : GameSystem) : String :=
  s!"{g.name} ({g.key})"

/-- The issues of a list of attributes after others. -/
def attributeIssues (seen : List String) : List String → List SystemIssue
  | [] => []
  | a :: as =>
    if a = "" then .emptyAttribute :: attributeIssues seen as
    else if a ∈ seen then .repeatedAttribute a :: attributeIssues seen as
    else attributeIssues (a :: seen) as

/-- The issues of one skill. -/
def skillIssues (g : GameSystem) (skill attr : String) : List SystemIssue :=
  (if g.isAttribute attr then [] else [.unknownAttribute skill attr]) ++
    (if g.isAttribute skill then [.ambiguous skill] else [])

/-- All the issues of a system. -/
def issues (g : GameSystem) : List SystemIssue :=
  (if g.attributes = [] then [.noAttributes] else []) ++
    attributeIssues [] g.attributes ++
    (g.skills.entries.flatMap fun e => g.skillIssues e.1 e.2) ++
    (if g.skills.isEmpty then [.noSkills] else [])

/-- What the issues of a system are found on. -/
def subject (g : GameSystem) : String :=
  s!"system '{g.key}'"

end GameSystem
end Tabletop
