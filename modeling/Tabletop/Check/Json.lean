/-
# Checks as JSON

Kinds and terms are choices: `"Attribute"`, or an object with the name of the
case as its only key.

Key definitions: `CheckKind.read`, `Term.read`, `Resolution.read`,
`Outcome.read`, `Choice.read`, and the `json` of each.
-/
import Tabletop.Check.Choice
import Tabletop.Check.Resolution
import Tabletop.Dice.Json

namespace Tabletop

open Json (Reader Field Form)

/-- Reads the kind of a check. -/
def CheckKind.read : Reader CheckKind := Json.readChoice [
  ("Attribute", .bare .attr),
  ("Skill", .record fun source d => do
    let form ← Json.readForm "struct variant CheckKind::Skill" [.needed "attribute" Json.text]
      source d
    return .skill (← form.need source "attribute" Json.text))]

/-- The kind of a check as a choice. -/
def CheckKind.json : CheckKind → Json
  | attr => .string "Attribute"
  | skill governor => .object [("Skill", .object [("attribute", .string governor)])]

/-- Reads a term. -/
def Term.read : Reader Term := Json.readChoice [
  ("Attribute", .record fun source d => do
    let form ← Json.readForm "struct variant BonusTerm::Attribute" [
      .needed "key" Json.text, .needed "score" Json.int32,
      .needed "modifier" (Json.option Json.int64)] source d
    return .score (← form.need source "key" Json.text) (← form.need source "score" Json.int32)
      (← form.get source "modifier" (Json.option Json.int64) none)),
  ("Proficiency", .record fun source d => do
    let form ← Json.readForm "struct variant BonusTerm::Proficiency" [.needed "bonus" Json.int32]
      source d
    return .proficiency (← form.need source "bonus" Json.int32)),
  ("SkillLevel", .record fun source d => do
    let form ← Json.readForm "struct variant BonusTerm::SkillLevel" [
      .needed "key" Json.text, .needed "level" Json.int32] source d
    return .level (← form.need source "key" Json.text) (← form.need source "level" Json.int32))]

/-- A term as a choice. -/
def Term.json : Term → Json
  | score key n modifier => .object [("Attribute", .object [
      ("key", .string key),
      ("score", .number n.toInt),
      ("modifier", .ofOption (fun n : Int64 => .number n.toInt) modifier)])]
  | proficiency bonus => .object [("Proficiency", .object [("bonus", .number bonus.toInt)])]
  | level key n => .object [("SkillLevel", .object [
      ("key", .string key),
      ("level", .number n.toInt)])]

/-- Reads a resolution. -/
def Resolution.read : Reader Resolution := fun source d => do
  let form ← Json.readForm "struct CheckResolution" [
    .needed "check" Json.text, .needed "kind" CheckKind.read, .needed "base_value" Json.int64,
    .needed "terms" (Json.list Term.read), .needed "description" Json.text] source d
  return {
    check := ← form.need source "check" Json.text
    kind := ← form.need source "kind" CheckKind.read
    bonus := ← form.need source "base_value" Json.int64
    terms := ← form.need source "terms" (Json.list Term.read)
    description := ← form.need source "description" Json.text }

/-- A resolution as an object. -/
def Resolution.json (r : Resolution) : Json := .object [
  ("check", .string r.check),
  ("kind", r.kind.json),
  ("base_value", .number r.bonus.toInt),
  ("terms", .array (r.terms.map Term.json)),
  ("description", .string r.description)]

/-- Reads an outcome. -/
def Outcome.read : Reader Outcome := fun source d => do
  let form ← Json.readForm "struct CheckOutcome" [
    .needed "character" Json.text, .needed "system" Json.text, .needed "requested" Json.text,
    .needed "resolution" Resolution.read, .needed "roll" Roll.read,
    .needed "total" Json.int64] source d
  return {
    character := ← form.need source "character" Json.text
    system := ← form.need source "system" Json.text
    requested := ← form.need source "requested" Json.text
    resolution := ← form.need source "resolution" Resolution.read
    roll := ← form.need source "roll" Roll.read
    total := ← form.need source "total" Json.int64 }

/-- An outcome as an object. -/
def Outcome.json (o : Outcome) : Json := .object [
  ("character", .string o.character),
  ("system", .string o.system),
  ("requested", .string o.requested),
  ("resolution", o.resolution.json),
  ("roll", o.roll.json),
  ("total", .number o.total.toInt)]

/-- Reads a choice. -/
def Choice.read : Reader Choice := fun source d => do
  let form ← Json.readForm "struct Choice" [.needed "name" Json.text, .needed "value" Json.text]
    source d
  return {
    name := ← form.need source "name" Json.text
    value := ← form.need source "value" Json.text }

/-- A choice as an object. -/
def Choice.json (c : Choice) : Json := .object [
  ("name", .string c.name),
  ("value", .string c.value)]

end Tabletop
