/-
# JSON text

A JSON value is written without any blank, or laid out over lines with two
spaces for each level. Strings keep every character but the quote, the
backslash and the control characters below the space, which are escaped.

Key definitions: `Json.Layout`, `Json.render`, `Json.compact`, `Json.pretty`.
-/
import Tabletop.Decimal
import Tabletop.Json.Basic

namespace Tabletop
namespace Json

/-- One character within a string. -/
def escapeChar (c : Char) : List Char :=
  if c = '"' then ['\\', '"']
  else if c = '\\' then ['\\', '\\']
  else if c = '\n' then ['\\', 'n']
  else if c = '\r' then ['\\', 'r']
  else if c = '\t' then ['\\', 't']
  else if c = '\x08' then ['\\', 'b']
  else if c = '\x0c' then ['\\', 'f']
  else if c.toNat < 0x20 then
    ['\\', 'u', '0', '0', Nat.digitChar (c.toNat / 16), Nat.digitChar (c.toNat % 16)]
  else [c]

/-- A string in quotes. -/
def quote (s : String) : List Char :=
  '"' :: s.toList.flatMap escapeChar ++ ['"']

/-- The blanks of a form of writing: what stands before an item, or before the
closing bracket, at some depth, and what stands after a colon. -/
structure Layout where
  gap : Nat → List Char
  afterColon : List Char

/-- No blanks at all. -/
def tight : Layout := ⟨fun _ => [], []⟩

/-- Each item on a line of its own, two spaces for each level. -/
def roomy : Layout := ⟨fun depth => '\n' :: List.replicate (2 * depth) ' ', [' ']⟩

mutual

/-- A value in some layout at some depth. -/
def render (l : Layout) (depth : Nat) : Json → List Char
  | .null => ['n', 'u', 'l', 'l']
  | .bool true => ['t', 'r', 'u', 'e']
  | .bool false => ['f', 'a', 'l', 's', 'e']
  | .number n => Decimal.integer n
  | .string s => quote s
  | .array [] => ['[', ']']
  | .array (x :: xs) =>
    '[' :: l.gap (depth + 1) ++ render l (depth + 1) x ++ renderItems l depth xs
  | .object [] => ['\x7b', '\x7d']
  | .object ((k, x) :: xs) =>
    '\x7b' :: l.gap (depth + 1) ++ quote k ++ ':' :: l.afterColon ++ render l (depth + 1) x ++
      renderMembers l depth xs

/-- The items after the first one, and the closing bracket. -/
def renderItems (l : Layout) (depth : Nat) : List Json → List Char
  | [] => l.gap depth ++ [']']
  | x :: xs => ',' :: l.gap (depth + 1) ++ render l (depth + 1) x ++ renderItems l depth xs

/-- The members after the first one, and the closing bracket. -/
def renderMembers (l : Layout) (depth : Nat) : List (String × Json) → List Char
  | [] => l.gap depth ++ ['\x7d']
  | (k, x) :: xs =>
    ',' :: l.gap (depth + 1) ++ quote k ++ ':' :: l.afterColon ++ render l (depth + 1) x ++
      renderMembers l depth xs

end

/-- The text of a value, without blanks. -/
def compact (j : Json) : String :=
  String.ofList (render tight 0 j)

/-- The text of a value, laid out over lines. -/
def pretty (j : Json) : String :=
  String.ofList (render roomy 0 j)

end Json
end Tabletop
