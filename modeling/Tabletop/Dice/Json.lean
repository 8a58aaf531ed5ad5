/-
# Throws and rolls as JSON

Key definitions: `Dice.read`, `Dice.json`, `Roll.read`, `Roll.json`.
-/
import Tabletop.Dice.Roll
import Tabletop.Json.Decode

namespace Tabletop

open Json (Reader Field Form)

/-- Reads a throw. Its numbers need not keep the bounds of the notation. -/
def Dice.read : Reader Dice := fun source d => do
  let form ← Json.readForm "struct DiceExpression" [
    .needed "count" Json.uint32, .needed "sides" Json.uint32, .needed "modifier" Json.int32]
    source d
  return {
    count := ← form.need source "count" Json.uint32
    sides := ← form.need source "sides" Json.uint32
    modifier := ← form.need source "modifier" Json.int32 }

/-- A throw as an object. -/
def Dice.json (d : Dice) : Json := .object [
  ("count", .number d.count.toNat),
  ("sides", .number d.sides.toNat),
  ("modifier", .number d.modifier.toInt)]

/-- Reads a roll. -/
def Roll.read : Reader Roll := fun source d => do
  let form ← Json.readForm "struct DiceRollResult" [
    .needed "expression" Dice.read, .needed "rolls" (Json.list Json.uint32),
    .needed "base_roll_sum" Json.int64, .needed "modifier" Json.int32,
    .needed "total" Json.int64] source d
  return {
    dice := ← form.need source "expression" Dice.read
    values := ← form.need source "rolls" (Json.list Json.uint32)
    sum := ← form.need source "base_roll_sum" Json.int64
    modifier := ← form.need source "modifier" Json.int32
    total := ← form.need source "total" Json.int64 }

/-- A roll as an object. -/
def Roll.json (r : Roll) : Json := .object [
  ("expression", r.dice.json),
  ("rolls", .array (r.values.map fun v => .number v.toNat)),
  ("base_roll_sum", .number r.sum.toInt),
  ("modifier", .number r.modifier.toInt),
  ("total", .number r.total.toInt)]

end Tabletop
