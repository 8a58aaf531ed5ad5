/-
# Resolving and performing a check

A check names an attribute or a skill. Its bonus is a sum of terms, which are
kept so that the reply can show them: the attribute's score, through the
formula of the system, and for a skill what the system's composition adds to
it. A name that is neither is refused, with the names that there are and the
one most similar to it, if any is similar enough. A check that is performed is
resolved first, and only then are the dice of the system thrown.

Key definitions: `Term`, `CheckKind`, `Resolution`, `resolve`,
`UnknownCheck`, `suggestion`, `Outcome`, `perform`.
-/
import Tabletop.Character.Basic
import Tabletop.Dice.Roll
import Tabletop.GameSystem.Basic
import Tabletop.Text.Similarity

namespace Tabletop

universe u

/-- One term of a bonus. An attribute has a modifier where the formula turns
the score into another number. -/
inductive Term where
  | score (key : String) (n : Int32) (modifier : Option Int64)
  | proficiency (bonus : Int32)
  | level (key : String) (n : Int32)
  deriving DecidableEq, Repr

namespace Term

/-- What a term adds. -/
def value : Term → Int64
  | score _ n modifier => modifier.getD n.toInt64
  | proficiency bonus => bonus.toInt64
  | level _ n => n.toInt64

/-- A number with its sign. -/
def signed (n : Int64) : String :=
  String.ofList (Decimal.signed n.toInt)

/-- A term in words, such as `DEX 14 (mod +2)`. -/
def text : Term → String
  | score key n (some modifier) => s!"{Key.label key} {n} (mod {signed modifier})"
  | score key n none => s!"{Key.label key} {n}"
  | proficiency bonus => s!"Prof. {signed bonus.toInt64}"
  | level key n => s!"{Key.label key} {n}"

end Term

/-- What a check tests: an attribute, or a skill governed by one. -/
inductive CheckKind where
  | attr
  | skill (governor : String)
  deriving DecidableEq, Repr

/-- The bonus of a check and where it comes from. -/
structure Resolution where
  check : String
  kind : CheckKind
  bonus : Int64
  terms : List Term
  description : String
  deriving DecidableEq, Repr

/-- The resolution with given terms. -/
def Resolution.ofTerms (check : String) (kind : CheckKind) (terms : List Term) : Resolution where
  check
  kind
  bonus := (terms.map Term.value).sum
  terms
  description := " + ".intercalate (terms.map Term.text)

/-- A name that is no check, and the names that are. -/
structure UnknownCheck where
  requested : String
  normalized : String
  system : String
  attributes : List String
  skills : List String
  suggestion : Option String
  deriving DecidableEq, Repr

/-- The error as the user sees it. -/
def UnknownCheck.message (e : UnknownCheck) : String :=
  let listed (names : List String) :=
    if names.isEmpty then "none defined" else ", ".intercalate names
  let hint := match e.suggestion with
    | some name => s!"\n  did you mean '{name}'?"
    | none => ""
  s!"unknown check '{e.requested}' (normalized: {e.normalized}) for {e.system}\n" ++
    s!"  attributes: {listed e.attributes}\n  skills: {listed e.skills}{hint}"

/-- How similar a name has to be to be suggested. -/
def suggestionThreshold : Float := 0.8

/-- The better of two names with their scores, the second one if they are
equal. -/
def betterName (best : Option (Float × String)) (next : Float × String) : Option (Float × String) :=
  match best with
  | some b => if Text.scoreRank next.1 < Text.scoreRank b.1 then some b else some next
  | none => some next

/-- The name most similar to a key among those that are similar enough, the
last one of equals. -/
def suggestion (names : List String) (key : String) : Option String :=
  let scored := names.map fun name => (Text.similarity key.toList name.toList, name)
  ((scored.filter fun s => s.1 ≥ suggestionThreshold).foldl betterName none).map (·.2)

/-- The error for a name that is no check. -/
def unknownCheck (g : GameSystem) (requested : String) : UnknownCheck where
  requested
  normalized := Key.normalize requested
  system := g.name
  attributes := g.attributes
  skills := g.skillNames
  suggestion := suggestion g.checkNames (Key.normalize requested)

/-- The term of an attribute's score under the formula of the system. -/
def scoreTerm (formula : ModifierFormula) (key : String) (score : Int32) : Term :=
  match formula with
  | .linearMod => .score key score (some (formula.apply score))
  | .directStat => .score key score none
  | .addRaw => .score key score none

/-- The terms of a skill. -/
def skillTerms (g : GameSystem) (c : Character) (skill attr : String) : List Term :=
  let score := (c.score attr).getD 0
  match g.composition with
  | .proficiencyGated =>
    scoreTerm g.formula attr score ::
      if c.isProficient skill then [.proficiency c.proficiencyBonus] else []
  | .statSum => [.score attr score none, .level skill (c.level skill)]
  | .modifierPlusLevel => [scoreTerm g.formula attr score, .level skill (c.level skill)]

/-- The bonus of a check. A score that the record misses counts as 0. -/
def resolve (g : GameSystem) (c : Character) (requested : String) :
    Except UnknownCheck Resolution :=
  let check := Key.normalize requested
  if g.isAttribute check then
    .ok (.ofTerms check .attr [scoreTerm g.formula check ((c.score check).getD 0)])
  else
    match g.skillAttribute check with
    | some attr => .ok (.ofTerms check (.skill attr) (skillTerms g c check attr))
    | none => .error (unknownCheck g requested)

/-- A check with its bonus and its roll. -/
structure Outcome where
  character : String
  system : String
  requested : String
  resolution : Resolution
  roll : Roll
  total : Int64
  deriving DecidableEq, Repr

/-- Resolves a check and throws the dice of the system, each one asked of a
source. -/
def perform {m : Type → Type u} [Monad m] (g : GameSystem) (c : Character) (requested : String)
    (die : UInt32 → m UInt32) : m (Except UnknownCheck Outcome) :=
  match resolve g c requested with
  | .error e => pure (.error e)
  | .ok resolution => do
    let roll ← g.primary.rollWith die
    pure (.ok {
      character := c.name
      system := g.name
      requested
      resolution
      roll
      total := roll.total + resolution.bonus })

end Tabletop
