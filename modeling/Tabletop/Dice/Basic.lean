/-
# Dice notation

A throw of dice is written `[N]dM[+K|-K]`: how many dice (one if nothing is
said), the sides of each, and a number that is added to their sum. Case and
blanks do not matter when it is read. The count is from 1 to 100 and a die has
at least one side.

Key definitions: `Dice`, `Dice.parse`, `Dice.text`, `DiceError`.
-/
import Tabletop.Decimal
import Tabletop.Text.Blank
import Tabletop.Text.Case

namespace Tabletop

/-- A throw of dice such as `2d6+3`. -/
structure Dice where
  count : UInt32
  sides : UInt32
  modifier : Int32
  deriving DecidableEq, Repr

/-- The bounds that a well-formed notation can break. -/
inductive DiceBound where
  | countTooLarge
  | sidesTooLarge
  | modifierTooLarge
  | noDice
  | tooManyDice
  | noSides
  | overLimit (limit : UInt32)
  deriving DecidableEq, Repr

/-- Why a throw is refused. -/
inductive DiceError where
  | malformed (text : String)
  | outOfRange (text : String) (bound : DiceBound)
  | unsupported (sides : UInt32) (allowed : List UInt32)
  deriving DecidableEq, Repr

namespace Dice

/-- The most dice that one throw can have. -/
def maxCount : UInt32 := 100

/-- The die sizes that are sold as dice. -/
def standardSides : List UInt32 := [4, 6, 8, 10, 12, 20, 100]

end Dice

/-- The bound in words. -/
def DiceBound.reason : DiceBound → String
  | countTooLarge => "too many dice"
  | sidesTooLarge => "die has too many sides"
  | modifierTooLarge => "modifier too large"
  | noDice => "roll at least one die"
  | tooManyDice => s!"cannot roll more than {Dice.maxCount} dice at once"
  | noSides => "a die needs at least one side"
  | overLimit limit => s!"at most {limit} dice per roll here"

/-- The error as the user sees it. -/
def DiceError.message : DiceError → String
  | malformed text => s!"invalid dice expression '{text}': use [N]dM[+|-K], e.g. 1d20, 2d6+3"
  | outOfRange text bound => s!"dice out of range in '{text}': {bound.reason}"
  | unsupported sides allowed =>
    let known := ", ".intercalate (allowed.map fun s => s!"d{s}")
    s!"d{sides} is not allowed here (allowed: {known})"

namespace Dice

/-- The three runs of digits of a notation, the last one with its sign. -/
structure Parts where
  count : List Char
  sides : List Char
  modifier : Option (Bool × List Char)
  deriving DecidableEq, Repr

/-- Reads `+K` or `-K` to the end of the text. -/
def splitModifier : List Char → Option (Bool × List Char)
  | '+' :: ds => if ds ≠ [] ∧ ds.all Char.isDigit then some (false, ds) else none
  | '-' :: ds => if ds ≠ [] ∧ ds.all Char.isDigit then some (true, ds) else none
  | _ => none

/-- Takes a text without blanks or capitals apart. -/
def split (cs : List Char) : Option Parts :=
  match cs.dropWhile Char.isDigit with
  | 'd' :: rest =>
    let count := cs.takeWhile Char.isDigit
    let sides := rest.takeWhile Char.isDigit
    if sides = [] then none
    else
      match rest.dropWhile Char.isDigit with
      | [] => some ⟨count, sides, none⟩
      | tail => (splitModifier tail).map fun m => ⟨count, sides, some m⟩
  | _ => none

/-- The number of a signed run of digits. -/
def modifierValue : Option (Bool × List Char) → Int
  | none => 0
  | some (negative, ds) => if negative then -(Decimal.value ds : Int) else Decimal.value ds

/-- The number of dice: one if the notation does not say. -/
def countValue (ds : List Char) : Nat :=
  if ds = [] then 1 else Decimal.value ds

/-- The first bound that the numbers of a notation break. -/
def brokenBound (count sides : Nat) (modifier : Int) : Option DiceBound :=
  if UInt32.size ≤ count then some .countTooLarge
  else if UInt32.size ≤ sides then some .sidesTooLarge
  else if modifier < Int32.minValue.toInt ∨ Int32.maxValue.toInt < modifier then
    some .modifierTooLarge
  else if count = 0 then some .noDice
  else if maxCount.toNat < count then some .tooManyDice
  else if sides = 0 then some .noSides
  else none

/-- Reads dice notation such as `d20`, `3d8`, `1d100+10` or `2D12 - 4`. -/
def parse (text : String) : Except DiceError Dice :=
  match split (Text.lowerEach (Text.squeeze text.toList)) with
  | none => .error (.malformed text)
  | some n =>
    let count := countValue n.count
    let sides := Decimal.value n.sides
    let modifier := modifierValue n.modifier
    match brokenBound count sides modifier with
    | some bound => .error (.outOfRange text bound)
    | none => .ok ⟨.ofNat count, .ofNat sides, .ofInt modifier⟩

/-- The notation of a throw, character by character. -/
def chars (d : Dice) : List Char :=
  Decimal.digits d.count.toNat ++ 'd' :: Decimal.digits d.sides.toNat ++
    if d.modifier = 0 then [] else Decimal.signed d.modifier.toInt

/-- The notation of a throw. -/
def text (d : Dice) : String :=
  String.ofList d.chars

end Dice
end Tabletop
