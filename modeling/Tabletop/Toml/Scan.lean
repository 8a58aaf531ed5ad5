/-
# Scanning

A scanner takes characters from the front of a text and yields a value, or
fails.

Key definitions: `Scan`, `Scan.next`, `Scan.expect`, `Scan.takeAll`.
-/

namespace Tabletop
namespace Toml

/-- A scanner. -/
abbrev Scan (α : Type) := StateT (List Char) Option α

namespace Scan

/-- Takes one character. -/
def next : Scan Char
  | [] => none
  | c :: cs => some (c, cs)

/-- The next character, which is left in place. -/
def peek : Scan (Option Char) := fun cs => some (cs.head?, cs)

/-- Whether the text goes on with some characters; if so they are taken. -/
def accept (word : List Char) : Scan Bool := fun cs =>
  if word.isPrefixOf cs then some (true, cs.drop word.length) else some (false, cs)

/-- Takes one given character. -/
def expect (c : Char) : Scan Unit := do
  if (← next) ≠ c then failure

/-- Takes all the characters up to the first one that is not of a class. -/
def takeAll (p : Char → Bool) : Scan (List Char) := fun cs =>
  some (cs.takeWhile p, cs.dropWhile p)

/-- Takes exactly `n` characters. -/
def take : Nat → Scan (List Char)
  | 0 => pure []
  | n + 1 => do
    let c ← next
    let cs ← take n
    return c :: cs

/-- The value of a whole text. -/
def whole {α : Type} (s : Scan α) (cs : List Char) : Option α :=
  match s cs with
  | some (a, []) => some a
  | _ => none

end Scan
end Toml
end Tabletop
