/-
# Reading JSON text

The draft of a text. The reader goes from the left to the right and takes what
the strict grammar allows: no comments, no trailing commas, no leading zeros,
no control characters in strings. Where it can go no further the rest of the
text does not count.

Key definitions: `skipBlanks`, `readScalar`, `readValue`, `Document`,
`Document.ofText`.
-/
import Tabletop.Json.Draft

namespace Tabletop
namespace Json

/-- The blanks of JSON: space, line feed, carriage return and tab. -/
def isGap (c : Char) : Bool :=
  c == ' ' || c == '\n' || c == '\r' || c == '\t'

/-- The text from its first character that is no blank. -/
def skipBlanks (cs : List Char) : List Char :=
  cs.dropWhile isGap

/-! ### Strings -/

/-- One part of a string: a character, or an escaped unit of 16 bits. -/
inductive Piece where
  | char (c : Char)
  | unit (n : Nat)
  deriving DecidableEq, Repr

/-- The value of a hexadecimal digit. -/
def hexValue (c : Char) : Option Nat :=
  if '0' ≤ c && c ≤ '9' then some (c.toNat - '0'.toNat)
  else if 'a' ≤ c && c ≤ 'f' then some (c.toNat - 'a'.toNat + 10)
  else if 'A' ≤ c && c ≤ 'F' then some (c.toNat - 'A'.toNat + 10)
  else none

/-- The value of four hexadecimal digits. -/
def hexUnit (a b c d : Char) : Option Nat :=
  match hexValue a, hexValue b, hexValue c, hexValue d with
  | some w, some x, some y, some z => some (((w * 16 + x) * 16 + y) * 16 + z)
  | _, _, _, _ => none

/-- The character of an escape of one letter. -/
def escaped (c : Char) : Option Char :=
  if c = '"' then some '"'
  else if c = '\\' then some '\\'
  else if c = '/' then some '/'
  else if c = 'b' then some '\x08'
  else if c = 'f' then some '\x0c'
  else if c = 'n' then some '\n'
  else if c = 'r' then some '\r'
  else if c = 't' then some '\t'
  else none

/-- The parts of a string after its opening quote, and the text after its
closing quote. -/
def readPieces : List Char → Option (List Piece × List Char)
  | [] => none
  | '"' :: rest => some ([], rest)
  | '\\' :: 'u' :: a :: b :: c :: d :: rest =>
    match hexUnit a b c d, readPieces rest with
    | some n, some (ps, rest) => some (.unit n :: ps, rest)
    | _, _ => none
  | '\\' :: c :: rest =>
    match escaped c, readPieces rest with
    | some e, some (ps, rest) => some (.char e :: ps, rest)
    | _, _ => none
  | c :: rest =>
    if c.toNat < 0x20 || c == '\\' then none
    else (readPieces rest).map fun (ps, rest) => (.char c :: ps, rest)

/-- The characters that the parts stand for. Units from D800 to DFFF have to
come in pairs, a high one and a low one. -/
def assemble : List Piece → Option (List Char)
  | [] => some []
  | .char c :: ps => (assemble ps).map (c :: ·)
  | .unit hi :: .unit lo :: ps =>
    if 0xD800 ≤ hi && hi < 0xDC00 then
      if 0xDC00 ≤ lo && lo < 0xE000 then
        (assemble ps).map (Char.ofNat (0x10000 + (hi - 0xD800) * 0x400 + (lo - 0xDC00)) :: ·)
      else none
    else if 0xDC00 ≤ hi && hi < 0xE000 then none
    else (assemble (.unit lo :: ps)).map (Char.ofNat hi :: ·)
  | .unit n :: ps =>
    if 0xD800 ≤ n && n < 0xE000 then none
    else (assemble ps).map (Char.ofNat n :: ·)

/-- A string after its opening quote, and the text after it. -/
def readString (cs : List Char) : Draft × List Char :=
  match readPieces cs with
  | none => (.broken, [])
  | some (ps, rest) =>
    match assemble ps with
    | some s => (.string (String.ofList s), rest)
    | none => (.garbled, rest)

/-! ### Numbers -/

/-- Digits of which there has to be one, and the text after them. -/
def readDigits (cs : List Char) : Option (List Char × List Char) :=
  match cs.takeWhile Char.isDigit with
  | [] => none
  | ds => some (ds, cs.dropWhile Char.isDigit)

/-- The digits before the point: a zero alone, or digits that begin with
another one. -/
def readWhole (cs : List Char) : Option (List Char × List Char) :=
  match readDigits cs with
  | some ('0' :: _ :: _, _) => none
  | r => r

/-- The digits after the point, none if there is no point. -/
def readFraction : List Char → Option (List Char × List Char)
  | '.' :: rest => readDigits rest
  | rest => some ([], rest)

/-- The exponent, if there is one. -/
def readExponent (cs : List Char) : Option (Option (Bool × List Char) × List Char) :=
  match cs with
  | c :: rest =>
    if c = 'e' ∨ c = 'E' then
      match rest with
      | '+' :: rest => (readDigits rest).map fun (ds, rest) => (some (false, ds), rest)
      | '-' :: rest => (readDigits rest).map fun (ds, rest) => (some (true, ds), rest)
      | rest => (readDigits rest).map fun (ds, rest) => (some (false, ds), rest)
    else some (none, cs)
  | [] => some (none, [])

/-- A number as written is an integer if it has neither point nor exponent, is
not a negative zero, and fits into 64 bits with or without a sign. -/
def RealText.draft (r : RealText) : Draft :=
  let n := Decimal.value r.whole
  if r.fraction.isEmpty && r.exponent.isNone then
    if r.negative then
      if 0 < n && Int64.minValue.toInt ≤ -(n : Int) then .integer (-(n : Int)) else .real r
    else if n < UInt64.size then .integer n
    else .real r
  else .real r

/-- A number without its minus sign, and the text after it. -/
def readNumber (negative : Bool) (cs : List Char) : Draft × List Char :=
  match readWhole cs with
  | none => (.broken, [])
  | some (whole, rest) =>
    match readFraction rest with
    | none => (.broken, [])
    | some (fraction, rest) =>
      match readExponent rest with
      | none => (.broken, [])
      | some (exponent, rest) => (RealText.draft ⟨negative, whole, fraction, exponent⟩, rest)

/-! ### Values -/

/-- A value that is no array and no object. -/
def readScalar : List Char → Draft × List Char
  | 'n' :: 'u' :: 'l' :: 'l' :: rest => (.null, rest)
  | 't' :: 'r' :: 'u' :: 'e' :: rest => (.bool true, rest)
  | 'f' :: 'a' :: 'l' :: 's' :: 'e' :: rest => (.bool false, rest)
  | '"' :: rest => readString rest
  | '-' :: rest => readNumber true rest
  | rest => readNumber false rest

/-- What stands in the place of a key and is no string. -/
def peekValue (cs : List Char) : Draft :=
  match cs with
  | '[' :: _ => .array .broken
  | '\x7b' :: _ => .object .broken
  | _ => (readScalar cs).1

mutual

/-- A value, and the text after it. -/
def readValue : Nat → List Char → Draft × List Char
  | 0, _ => (.broken, [])
  | n + 1, cs =>
    match skipBlanks cs with
    | '[' :: rest =>
      match skipBlanks rest with
      | ']' :: rest => (.array .closed, rest)
      | rest =>
        let (d, rest) := readValue n rest
        let (ds, rest) := readItems n rest
        (.array (.cons d ds), rest)
    | '\x7b' :: rest =>
      match skipBlanks rest with
      | '\x7d' :: rest => (.object .closed, rest)
      | rest =>
        let (ms, rest) := readMember n rest
        (.object ms, rest)
    | rest => readScalar rest

/-- The items after the first one. -/
def readItems : Nat → List Char → Items × List Char
  | 0, _ => (.broken, [])
  | n + 1, cs =>
    match skipBlanks cs with
    | ']' :: rest => (.closed, rest)
    | ',' :: rest =>
      let (d, rest) := readValue n rest
      let (ds, rest) := readItems n rest
      (.cons d ds, rest)
    | _ => (.broken, [])

/-- A member and those after it. -/
def readMember : Nat → List Char → Members × List Char
  | 0, _ => (.broken, [])
  | n + 1, cs =>
    match skipBlanks cs with
    | '"' :: rest =>
      let (key, rest) := readString rest
      match skipBlanks rest with
      | ':' :: rest =>
        let (d, rest) := readValue n rest
        let (ms, rest) := readMembers n rest
        (.cons key d ms, rest)
      | _ => (.cons key .broken .broken, [])
    | rest => (.cons (peekValue rest) .broken .broken, [])

/-- The members after the first one. -/
def readMembers : Nat → List Char → Members × List Char
  | 0, _ => (.broken, [])
  | n + 1, cs =>
    match skipBlanks cs with
    | '\x7d' :: rest => (.closed, rest)
    | ',' :: rest => readMember n rest
    | _ => (.broken, [])

end

/-- A text as it was read: its value, and whether only blanks follow it. -/
structure Document where
  root : Draft
  ended : Bool

/-- Reads a text. Every step into a value or past an item leaves a shorter
text behind two of them, so the steps cannot run out. -/
def Document.ofText (text : String) : Document :=
  let cs := text.toList
  let (d, rest) := readValue (2 * cs.length + 2) cs
  ⟨d, (skipBlanks rest).isEmpty⟩

end Json
end Tabletop
