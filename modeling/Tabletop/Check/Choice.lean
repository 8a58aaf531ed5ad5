/-
# Choices

What can be completed while a name is typed: a label to show and the value
behind it. A choice matches what was typed if its label or its value contains
it, in any case; at most 25 choices are offered.

Key definitions: `Choice`, `Choice.filter`, `GameSystem.choices`.
-/
import Tabletop.GameSystem.Basic

namespace Tabletop

/-- One choice. -/
structure Choice where
  name : String
  value : String
  deriving DecidableEq, Repr

/-- Whether a text occurs in another one. -/
def Text.occursIn (needle : List Char) : List Char → Bool
  | [] => needle.isEmpty
  | c :: cs => needle.isPrefixOf (c :: cs) || Text.occursIn needle cs

theorem Text.occursIn_iff {needle : List Char} : ∀ {cs : List Char},
    Text.occursIn needle cs = true ↔ needle <:+: cs
  | [] => by
    rw [Text.occursIn, List.isEmpty_iff, List.infix_nil]
  | c :: cs => by
    rw [Text.occursIn, Bool.or_eq_true, List.isPrefixOf_iff_prefix, List.infix_cons_iff,
      Text.occursIn_iff]

namespace Choice

/-- The most choices that are offered at once. -/
def limit : Nat := 25

/-- Whether a choice matches a text in small letters. -/
def fits (typed : List Char) (c : Choice) : Bool :=
  Text.occursIn typed (Text.lower c.name.toList) || Text.occursIn typed (Text.lower c.value.toList)

/-- The first choices that match what was typed. -/
def filter (choices : List Choice) (typed : String) : List Choice :=
  (choices.filter (fits (Text.lower (Text.trim typed.toList)))).take limit

end Choice

/-- The checks of a system as choices, sorted by their labels; of equal labels
attributes come first. -/
def GameSystem.allChoices (g : GameSystem) : List Choice :=
  let attributes := g.attributes.map fun a => (⟨s!"Attribute: {Key.display a}", a⟩ : Choice)
  let skills := g.skillNames.map fun s => (⟨s!"Skill: {Key.display s}", s⟩ : Choice)
  (attributes ++ skills).mergeSort fun a b => a.name ≤ b.name

/-- The checks of a system that match what was typed. -/
def GameSystem.choices (g : GameSystem) (typed : String) : List Choice :=
  Choice.filter g.allChoices typed

end Tabletop
