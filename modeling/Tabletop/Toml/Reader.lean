/-
# Reading TOML

A document is a row of lines: assignments of values to keys, and headers that
open the table for the assignments below them. Arrays and tables in braces may
run over several lines: a line may end between any two parts of them, but not
inside a key. At most 80 of them may be open at once, and a key has at most 80
parts.

Key definitions: `key`, `value`, `Toml.read`.
-/
import Tabletop.Toml.Scalar
import Tabletop.Toml.Text

namespace Tabletop
namespace Toml

/-- Takes spaces and tabs. -/
def skipGaps : Scan Unit := do
  let _ ← Scan.takeAll isGap

/-- Takes a comment, if there is one, up to the end of its line. -/
def skipComment : Scan Unit := do
  if ← Scan.accept ['#'] then
    let _ ← Scan.takeAll isPlain

/-- Takes blanks, comments and ends of lines. -/
def skipLines : Nat → Scan Unit
  | 0 => failure
  | n + 1 => do
    skipGaps
    skipComment
    if ← takeNewline then skipLines n

/-- Takes all that has no meaning between the parts of a value. -/
def skipAll : Scan Unit := do
  let n := (← get).length
  skipLines (n + 1)

/-! ### Keys -/

/-- Whether a character may stand in a key without quotes. -/
def isKeyChar (c : Char) : Bool :=
  c.isAlphanum || c == '_' || c == '-'

/-- One part of a key. -/
def keyPart : Scan String := do
  if ← Scan.accept ['"'] then lineText '"'
  else if ← Scan.accept ['\''] then lineText '\''
  else
    let cs ← Scan.takeAll isKeyChar
    if cs.isEmpty then failure
    return String.ofList cs

/-- The parts of a key, at most so many, with dots between them, and the blanks
around them. -/
def keyParts : Nat → Scan (List String)
  | 0 => failure
  | n + 1 => do
    skipGaps
    let part ← keyPart
    skipGaps
    if ← Scan.accept ['.'] then return part :: (← keyParts n)
    return [part]

/-- How many parts a key may have, and how many arrays and tables in braces
may be open at once. -/
def maxDepth : Nat := 80

/-- A key. -/
def key : Scan (List String) := keyParts maxDepth

/-! ### Values -/

mutual

/-- A value. -/
def valueAt : Nat → Nat → Scan Node
  | 0, _ => failure
  | n + 1, depth => do
    match ← Scan.peek with
    | some '"' => return .text (← quotedText '"')
    | some '\'' => return .text (← quotedText '\'')
    | some '[' =>
      if depth = 0 then failure
      Scan.expect '['
      itemsAt n (depth - 1)
      return .other
    | some '\x7b' =>
      if depth = 0 then failure
      Scan.expect '\x7b'
      return .table .inline (← membersAt n (depth - 1) [])
    | _ => scalar (← takeScalar)

/-- The items of an array and its closing bracket. -/
def itemsAt : Nat → Nat → Scan Unit
  | 0, _ => failure
  | n + 1, depth => do
    skipAll
    if ← Scan.accept [']'] then return
    let _ ← valueAt n depth
    skipAll
    if ← Scan.accept [','] then itemsAt n depth
    else Scan.expect ']'

/-- The members of a table in braces and the closing brace. -/
def membersAt : Nat → Nat → Table → Scan Table
  | 0, _, _ => failure
  | n + 1, depth, t => do
    skipAll
    if ← Scan.accept ['\x7d'] then return t
    let keys ← key
    skipAll
    Scan.expect '='
    skipAll
    let v ← valueAt n depth
    let t ← Table.assign v keys true t
    skipAll
    if ← Scan.accept [','] then membersAt n depth t
    else
      Scan.expect '\x7d'
      return t

end

/-- A value. -/
def value : Scan Node := do
  let n := (← get).length
  valueAt (2 * n + 1) maxDepth

/-! ### Documents -/

/-- A document as far as it is read: all of its tables, and the keys of the
one that assignments go to. -/
structure Progress where
  root : Table
  place : List String

/-- Goes through a header and opens the table that it names. -/
def Progress.enter (p : Progress) (keys : List String)
    (change : String → Table → Option Table) : Option Progress := do
  let last ← keys.getLast?
  let root ← p.root.within (change last) keys.dropLast
  return ⟨root, keys⟩

/-- Puts a value at a key of the open table. -/
def Progress.assign (p : Progress) (keys : List String) (v : Node) : Option Progress := do
  let root ← p.root.within (Table.assign v keys true) p.place
  return { p with root }

/-- One line that is not empty, up to what may follow it. -/
def line (p : Progress) : Scan Progress := do
  if ← Scan.accept ['[', '['] then
    let keys ← key
    Scan.expect ']'
    Scan.expect ']'
    p.enter keys Table.openItem
  else if ← Scan.accept ['['] then
    let keys ← key
    Scan.expect ']'
    p.enter keys Table.openTable
  else
    let keys ← key
    Scan.expect '='
    skipGaps
    let v ← value
    p.assign keys v

/-- The lines of a document. -/
def document : Nat → Progress → Scan Table
  | 0, _ => failure
  | n + 1, p => do
    skipAll
    if (← Scan.peek).isNone then return p.root
    let p ← line p
    skipGaps
    skipComment
    if (← Scan.peek).isNone then return p.root
    if ← takeNewline then document n p else failure

/-- The root table of a document, which may begin with a byte order mark. -/
def read (text : String) : Option Table :=
  let cs := match text.toList with
    | '\uFEFF' :: cs => cs
    | cs => cs
  (document (cs.length + 1) ⟨[], []⟩).whole cs

end Toml
end Tabletop
