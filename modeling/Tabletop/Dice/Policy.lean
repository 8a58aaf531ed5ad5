/-
# Roll policies

Limits on what may be thrown, on top of the bounds of the notation: fewer dice
than the hundred that it allows, and only dice of listed sizes.

Key definitions: `RollPolicy`, `RollPolicy.freeRoll`, `RollPolicy.parse`.
-/
import Tabletop.Dice.Basic

namespace Tabletop

/-- How many dice may be thrown at once, and which sizes; any size if none are
listed. -/
structure RollPolicy where
  maxDice : UInt32
  allowedSides : Option (List UInt32)
  deriving DecidableEq, Repr

namespace RollPolicy

/-- At most ten dice, of the sizes that are sold. -/
def freeRoll : RollPolicy := ⟨10, some Dice.standardSides⟩

/-- Nothing beyond the bounds of the notation. -/
def unrestricted : RollPolicy := ⟨Dice.maxCount, none⟩

/-- The policy with another limit on the number of dice, kept from 1 to 100. -/
def withMaxDice (p : RollPolicy) (limit : UInt32) : RollPolicy :=
  { p with
    maxDice := if limit < 1 then 1 else if Dice.maxCount < limit then Dice.maxCount else limit }

/-- Checks the number of dice. -/
def checkCount (p : RollPolicy) (d : Dice) : Except DiceError Unit :=
  if p.maxDice < d.count then .error (.outOfRange d.text (.overLimit p.maxDice)) else .ok ()

/-- Checks a throw: first its size of die, then the number of dice. -/
def check (p : RollPolicy) (d : Dice) : Except DiceError Unit :=
  match p.allowedSides with
  | some allowed =>
    if allowed.contains d.sides then p.checkCount d else .error (.unsupported d.sides allowed)
  | none => p.checkCount d

/-- Reads dice notation and checks what it says. -/
def parse (p : RollPolicy) (text : String) : Except DiceError Dice :=
  match Dice.parse text with
  | .error e => .error e
  | .ok d =>
    match p.check d with
    | .error e => .error e
    | .ok () => .ok d

end RollPolicy
end Tabletop
