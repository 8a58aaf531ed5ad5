/-
# TOML texts

Texts in quotes, over one line or several. Between single quotes every
character stands for itself; between double quotes a backslash begins an
escape. Over several lines the quotes are tripled, a line feed right after the
opening ones is dropped, and a backslash at the end of a line joins it with the
next text.

Key definitions: `quotedText`, `lineText`.
-/
import Tabletop.Json.Reader
import Tabletop.Toml.Scan

namespace Tabletop
namespace Toml

/-- Whether a character may stand within one line. -/
def isPlain (c : Char) : Bool :=
  c == '\t' || (0x20 ≤ c.toNat && c.toNat != 0x7f)

/-- Whether a character is a space or a tab. -/
def isGap (c : Char) : Bool :=
  c == ' ' || c == '\t'

/-- Takes the end of a line, if the text is there. -/
def takeNewline : Scan Bool := do
  if ← Scan.accept ['\n'] then return true
  Scan.accept ['\r', '\n']

/-- The character with a number in hexadecimal digits. -/
def charOfHex (ds : List Char) : Option Char := do
  let values ← ds.mapM Json.hexValue
  let n := values.foldl (fun n v => n * 16 + v) 0
  if n.isValidChar then return Char.ofNat n else failure

/-- The character of an escape of one letter. -/
def escaped (c : Char) : Option Char :=
  if c = 'b' then some '\x08'
  else if c = 't' then some '\t'
  else if c = 'n' then some '\n'
  else if c = 'f' then some '\x0c'
  else if c = 'r' then some '\r'
  else if c = 'e' then some '\x1b'
  else if c = '"' then some '"'
  else if c = '\\' then some '\\'
  else none

/-- The character of an escape after its backslash. -/
def escape : Scan Char := do
  let c ← Scan.next
  if c == 'x' then charOfHex (← Scan.take 2)
  else if c == 'u' then charOfHex (← Scan.take 4)
  else if c == 'U' then charOfHex (← Scan.take 8)
  else escaped c

/-- A text within one line, after its opening quote. Only between double quotes
there are escapes. The fuel is the length of the text. -/
def lineTextAfter (quote : Char) : Nat → Scan (List Char)
  | 0 => failure
  | n + 1 => do
    let c ← Scan.next
    if c == quote then return []
    let c ← if c == '\\' && quote == '"' then escape else if isPlain c then pure c else failure
    return c :: (← lineTextAfter quote n)

/-- Takes blanks and ends of lines. -/
def skipBlankLines : Nat → Scan Unit
  | 0 => failure
  | n + 1 => do
    let _ ← Scan.takeAll isGap
    if ← takeNewline then skipBlankLines n

/-- Takes the end of a line and the blanks around it, after a backslash. -/
def joinLines (fuel : Nat) : Scan Unit := do
  let _ ← Scan.takeAll isGap
  if ← takeNewline then skipBlankLines fuel else failure

/-- A text over several lines, after its opening quotes. It ends with three
quotes, before which there may be two that belong to it. -/
def blockTextAfter (quote : Char) : Nat → Scan (List Char)
  | 0 => failure
  | n + 1 => do
    if ← Scan.accept [quote, quote, quote, quote, quote] then return [quote, quote]
    if ← Scan.accept [quote, quote, quote, quote] then return [quote]
    if ← Scan.accept [quote, quote, quote] then return []
    if ← Scan.accept ['\r', '\n'] then return '\r' :: '\n' :: (← blockTextAfter quote n)
    let c ← Scan.next
    if c == '\\' && quote == '"' then
      match ← Scan.peek with
      | some e =>
        if isGap e || e == '\n' || e == '\r' then
          joinLines n
          blockTextAfter quote n
        else
          let c ← escape
          return c :: (← blockTextAfter quote n)
      | none => failure
    else if isPlain c || c == '\n' then return c :: (← blockTextAfter quote n)
    else failure

/-- A text in one line, after its opening quote. -/
def lineText (quote : Char) : Scan String := do
  let n := (← get).length
  return String.ofList (← lineTextAfter quote n)

/-- A text in either form, with its quotes. -/
def quotedText (quote : Char) : Scan String := do
  let n := (← get).length
  if ← Scan.accept [quote, quote, quote] then
    let _ ← takeNewline
    return String.ofList (← blockTextAfter quote n)
  Scan.expect quote
  lineText quote

end Toml
end Tabletop
