/-
# Reviewing a character

A record is compared with the game system that it is used in: whether it
belongs there, and which of its entries the system does not know or misses.
Only a record of another system is an error.

Key definitions: `RecordIssue`, `Character.review`.
-/
import Tabletop.Catalog.Basic
import Tabletop.Character.Basic

namespace Tabletop

/-- What can be wrong with a record in a game system. -/
inductive RecordIssue where
  | foreignSystem (own system : String)
  | unknownAttribute (attr system : String)
  | missingAttribute (attr : String)
  | unknownSkill (skill system : String)
  deriving DecidableEq, Repr

namespace RecordIssue

/-- The issue in words. -/
def message : RecordIssue → String
  | foreignSystem own system => s!"record belongs to system '{own}', not '{system}'"
  | unknownAttribute attr system => s!"unknown attribute '{attr}' in system '{system}'"
  | missingAttribute attr => s!"attribute '{attr}' is missing, rolls as 0"
  | unknownSkill skill system => s!"unknown skill '{skill}' in system '{system}'"

/-- Whether the issue is more than a warning. -/
def isError : RecordIssue → Bool
  | foreignSystem _ _ => true
  | _ => false

end RecordIssue

/-- An issue as it is reported: its weight, what it was found on, and the
words for it. -/
def issueText (isError : Bool) (subject message : String) : String :=
  let weight := if isError then "error" else "warning"
  s!"{weight}: {subject}: {message}"

namespace Character

/-- The issues of a record in a game system: the system, the attributes that
are not known, those that are missing, the skills that are not known. -/
def review (g : GameSystem) (c : Character) : List RecordIssue :=
  (if Catalog.sameLetters c.system g.key then [] else [.foreignSystem c.system g.key]) ++
    ((c.attributes.keys.filter fun a => !g.isAttribute (Key.normalize a)).map
      (.unknownAttribute · g.key)) ++
    ((g.attributes.filter fun a => (c.score a).isNone).map .missingAttribute) ++
    (((c.skills.keys ++ c.proficiency.keys).filter fun s =>
      (g.skillAttribute (Key.normalize s)).isNone).map (.unknownSkill · g.key))

end Character
end Tabletop
