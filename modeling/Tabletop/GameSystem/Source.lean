/-
# Sources of game systems

A game system as somebody wrote it down: names as they are typed, formulas left
out, the dice in the one place or the other. Building the system normalizes
the names, fills in what is left out and refuses what is inconsistent.

Key definitions: `SystemSource`, `SystemError`, `GameSystem.ofSource`.
-/
import Tabletop.GameSystem.Basic
import Tabletop.Json.Decode

namespace Tabletop

/-- A game system as it is written down. The older layout has its dice in
`dice`, which may be there without saying anything. -/
structure SystemSource where
  name : Option String
  attributes : List String
  skills : KeyMap String
  formula : Option ModifierFormula
  composition : Option SkillComposition
  diceText : Option String
  dice : Option (Option String)
  deriving DecidableEq, Repr

/-- Why a game system is refused. -/
inductive SystemFault where
  | unreadable (error : Json.ReadError)
  | noDice
  | badDice (error : DiceError)
  | inconsistent (issue : SystemIssue)
  deriving DecidableEq, Repr

/-- The fault in words. -/
def SystemFault.reason : SystemFault → String
  | unreadable error => error.message
  | noDice => "no dice notation for the primary check"
  | badDice error => error.message
  | inconsistent issue => issue.message

/-- A refused game system. -/
structure SystemError where
  system : String
  fault : SystemFault
  deriving DecidableEq, Repr

/-- The error as the user sees it. -/
def SystemError.message (e : SystemError) : String :=
  s!"invalid game system '{e.system}': {e.fault.reason}"

namespace SystemSource

/-- The dice that the source names, the current place first. -/
def notedDice (s : SystemSource) : Option String :=
  s.diceText.or s.dice.join

/-- The skills under their keys, with the keys of their attributes; of two
with one key the later in the order of the source's names counts. -/
def normalSkills (s : SystemSource) : KeyMap String :=
  KeyMap.ofList (s.skills.entries.map fun e => (Key.normalize e.1, Key.normalize e.2))

/-- The system that the source describes, with given dice; it may be
inconsistent. -/
def assembled (s : SystemSource) (key : String) (diceText : String) (primary : Dice) :
    GameSystem :=
  let formula := s.formula.getD .addRaw
  { key
    name := s.name.getD key
    attributes := s.attributes.map Key.normalize
    skills := s.normalSkills
    formula
    composition := s.composition.getD (.impliedBy formula)
    diceText
    primary }

end SystemSource

/-- Builds the game system that a source describes. -/
def GameSystem.ofSource (key : String) (s : SystemSource) : Except SystemError GameSystem :=
  match s.notedDice with
  | none => .error ⟨key, .noDice⟩
  | some diceText =>
    match Dice.parse diceText with
    | .error e => .error ⟨key, .badDice e⟩
    | .ok primary =>
      let g := s.assembled key diceText primary
      match g.issues.find? (·.isError) with
      | some issue => .error ⟨key, .inconsistent issue⟩
      | none => .ok g

end Tabletop
