/-
# What a command tells

A command writes lines, logs warnings, and may end with an error. What it has
told before the error stays told.

Key definitions: `CommandError`, `Journal`, `Telling`.
-/
import Tabletop.Check.Resolution
import Tabletop.Config

namespace Tabletop
namespace Command

/-- Why a command fails. -/
inductive CommandError where
  | badConfig (path : String) (error : StoreError)
  | store (error : StoreError)
  | dice (error : DiceError)
  | check (error : UnknownCheck)
  deriving DecidableEq, Repr

/-- The error as the user sees it. -/
def CommandError.message : CommandError → String
  | badConfig path error => s!"cannot read config {path}: {error.message}"
  | store error => error.message
  | dice error => error.message
  | check error => error.message

/-- The lines and the warnings so far. -/
structure Journal where
  output : List String
  warnings : List String
  deriving DecidableEq, Repr

/-- Nothing told. -/
def Journal.empty : Journal := ⟨[], []⟩

/-- Something that a command does in telling. -/
abbrev Telling (α : Type) := ExceptT CommandError (StateM Journal) α

/-- Writes a line. -/
def say (line : String) : Telling Unit :=
  modify fun j => { j with output := j.output ++ [line] }

/-- Logs a warning. -/
def warn (text : String) : Telling Unit :=
  modify fun j => { j with warnings := j.warnings ++ [text] }

/-- What a store answers. -/
def need {α : Type} : Except StoreError α → Telling α
  | .ok a => pure a
  | .error e => throw (.store e)

/-- A character of a log message: what could steer a terminal is spelled
out. -/
def logChar (c : Char) : List Char :=
  let hex (n : Nat) := [Nat.digitChar (n / 16), Nat.digitChar (n % 16)]
  if c = '\x07' ∨ c = '\x08' ∨ c = '\x0c' ∨ c = '\x1b' ∨ c = '\x7f' then
    '\\' :: 'x' :: hex c.toNat
  else if 0x80 ≤ c.toNat ∧ c.toNat ≤ 0x9f then '\\' :: 'u' :: '\x7b' :: hex c.toNat ++ ['\x7d']
  else [c]

/-- A log message as it is written. -/
def logText (message : String) : String :=
  String.ofList (message.toList.flatMap logChar)

end Command
end Tabletop
