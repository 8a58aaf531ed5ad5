/-
# Rolls

A roll is a throw with the values of its dice, in the order in which they
fell, their sum, and the total. Dice are thrown one after the other by any
source that answers each request for a die of some size.

A source may count the requests from zero and answer by their number. From a seed
comes one that mixes the bits of a counter, so the same seed gives the same dice.

Key definitions: `Roll`, `Roll.ofValues`, `Dice.rollWith`, `Roll.text`, `DieSource`,
`DieSource.next`, `DieSource.ofSeed`, `Dice.roll`.
-/
import Tabletop.Dice.Basic

namespace Tabletop

universe u

/-- The outcome of a throw. -/
structure Roll where
  dice : Dice
  values : List UInt32
  sum : Int64
  modifier : Int32
  total : Int64
  deriving DecidableEq, Repr

namespace Roll

/-- The sum of die values. -/
def sumOf (values : List UInt32) : Int64 :=
  (values.map fun v => Int64.ofNat v.toNat).sum

/-- The roll of a throw with given die values. -/
def ofValues (dice : Dice) (values : List UInt32) : Roll where
  dice
  values
  sum := sumOf values
  modifier := dice.modifier
  total := sumOf values + dice.modifier.toInt64

/-- The die values in a row, such as `3, 5`. -/
def joined (r : Roll) : String :=
  ", ".intercalate (r.values.map toString)

/-- The roll with its dice and its total, such as `2d6-1 (3, 5) = 7`. -/
def text (r : Roll) : String :=
  s!"{r.dice.text} ({r.joined}) = {r.total}"

end Roll

namespace Dice

/-- Asks a source for `n` dice of one size, one after the other. -/
def throwDice {m : Type → Type u} [Monad m] (die : UInt32 → m UInt32) (sides : UInt32) :
    Nat → m (List UInt32)
  | 0 => pure []
  | n + 1 => do
    let value ← die sides
    let values ← throwDice die sides n
    pure (value :: values)

/-- Throws the dice, each one asked of a source. -/
def rollWith {m : Type → Type u} [Monad m] (d : Dice) (die : UInt32 → m UInt32) : m Roll := do
  let values ← throwDice die d.sides d.count.toNat
  pure (Roll.ofValues d values)

end Dice

/-- The value of each die that is asked for, by the number of the request and
the sides of the die. -/
abbrev DieSource := Nat → UInt32 → UInt32

namespace DieSource

/-- Asks for the next die; the state counts the requests. -/
def next (s : DieSource) (sides : UInt32) : StateM Nat UInt32 := do
  let n ← get
  set (n + 1)
  pure (s n sides)

/-- Mixes the bits of a word. -/
def mix (w : UInt64) : UInt64 :=
  let a := (w ^^^ (w >>> 30)) * 0xBF58476D1CE4E5B9
  let b := (a ^^^ (a >>> 27)) * 0x94D049BB133111EB
  b ^^^ (b >>> 31)

/-- The dice that follow from a seed. -/
def ofSeed (seed : UInt64) : DieSource := fun n sides =>
  let w := mix (seed + 0x9E3779B97F4A7C15 * .ofNat (n + 1))
  .ofNat (w.toNat % sides.toNat + 1)

/-- The dice that show given values, over and over. -/
def ofValues (values : List UInt32) : DieSource := fun n _ =>
  values.getD (n % values.length) 0

end DieSource

/-- Throws the dice with a source. -/
def Dice.roll (d : Dice) (s : DieSource) : Roll :=
  (d.rollWith s.next 0).1

end Tabletop
