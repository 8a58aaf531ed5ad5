/-
# Ligatures of letters

Some letters are drawn as one with the letters after them and take their
column together. Texts are gone through from the last character to the first,
and what has been seen of a ligature is its right part; the character before
it completes it, adds to it, or leaves it as it is.

Key definitions: `Ligature`, `Ligature.ofChar?`, `Ligature.take?`.
-/
import Tabletop.Text.Columns
import Tabletop.Text.LigatureTable

namespace Tabletop
namespace Text

/-- The right part of a ligature. Where a joiner has to stand before it,
`joined` tells whether there is one. -/
inductive Ligature where
  | alef
  | lamed (joined : Bool)
  | coengLetter
  | ya (joined : Bool)
  | vowelYa
  | consonant (joined : Bool)
  | boundConsonant
  | tone
  | orkhonI (joined : Bool)
  | vowelE
  | vowelAi
  deriving DecidableEq, Repr

namespace Ligature

/-- Invites the characters before it to join, in writing systems that need a
sign for this. -/
def joiner : Char := '\u200D'

/-- The ligature that may end with a character. -/
def ofChar? (c : Char) : Option Ligature :=
  if CodeRange.covers alefRanges c then some .alef
  else if c = '\u05DC' then some (.lamed false)
  else if CodeRange.covers coengRanges c then some .coengLetter
  else if c = '\u1A10' then some (.ya false)
  else if CodeRange.covers tifinaghRanges c then some (.consonant false)
  else if c = '\uA4FC' || c = '\uA4FD' then some .tone
  else if c = Char.ofNat 0x10C03 then some (.orkhonI false)
  else if c = Char.ofNat 0x16D67 then some .vowelE
  else if c = Char.ofNat 0x16D68 then some .vowelAi
  else none

/-- Whether a selector of a style may stand inside the ligature. -/
def bearsStyle : Ligature → Bool
  | .vowelE | .vowelAi => false
  | _ => true

/-- Whether joiners and invisible marks may stand inside the ligature. -/
def bearsMarks (l : Ligature) : Bool :=
  l.bearsStyle && l != .alef

/-- The ligature with a joiner before its right part. -/
def join : Ligature → Ligature
  | .lamed _ => .lamed true
  | .ya _ => .ya true
  | .consonant _ => .consonant true
  | .orkhonI _ => .orkhonI true
  | l => l

/-- Whether Arabic letters join across a character. -/
def isTransparent (c : Char) : Bool :=
  columns c == 0 && !CodeRange.covers separatingRanges c

/-- Takes a character into the ligature after it: the columns that it adds,
and what may still go on to the left, if anything. -/
def take? (l : Ligature) (c : Char) : Option (Int × Option Ligature) :=
  if l.bearsMarks && c = joiner then some (0, some l.join)
  else if l.bearsMarks && CodeRange.covers invisibleRanges c then some (0, some l)
  else
    match l with
    | .alef =>
      if CodeRange.covers lamRanges c then some (0, none)
      else if isTransparent c then some (0, some .alef)
      else none
    | .lamed joined => if joined && c = '\u05D0' then some (0, none) else none
    | .coengLetter => if c = '\u17D2' then some (-1, none) else none
    | .ya joined => if joined && c = '\u1A17' then some (0, some .vowelYa) else none
    | .vowelYa => if c = '\u1A15' then some (0, none) else none
    | .consonant joined =>
      if c = '\u2D7F' then some (1, some .boundConsonant)
      else if joined && CodeRange.covers tifinaghRanges c then some (0, none)
      else none
    | .boundConsonant => if CodeRange.covers tifinaghRanges c then some (-1, none) else none
    | .tone => if '\uA4F8' ≤ c && c ≤ '\uA4FB' then some (0, none) else none
    | .orkhonI joined => if joined && c = Char.ofNat 0x10C32 then some (0, none) else none
    | .vowelE =>
      if c = Char.ofNat 0x16D63 || c = Char.ofNat 0x16D69 then some (0, none)
      else if c = Char.ofNat 0x16D67 then some (0, some .vowelAi)
      else if c = Char.ofNat 0x16D68 then some (1, some .vowelE)
      else none
    | .vowelAi => if c = Char.ofNat 0x16D63 then some (0, none) else none

end Ligature
end Text
end Tabletop
