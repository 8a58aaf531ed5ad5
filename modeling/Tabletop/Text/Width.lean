/-
# Column widths

How many columns of a terminal a line of text takes: those of its characters,
except for ligatures, emoji sequences, and characters with a selector after
them that asks for a style. The line is gone through from its last character
to its first, and each character may join what stands after it.

Key definitions: `Ahead`, `Ahead.take`, `width`.
-/
import Tabletop.Text.Emoji

namespace Tabletop
namespace Text

/-- What a character may join to its right. -/
inductive Joint where
  | nothing
  | letters (part : Ligature)
  | emoji (tail : EmojiTail)
  deriving DecidableEq, Repr

/-- Whether selectors leave the joint in place. -/
def Joint.bearsStyle : Joint → Bool
  | .letters part => part.bearsStyle
  | _ => false

/-- Whether a joiner and a complete emoji stand to the right. -/
def Joint.isLinked : Joint → Bool
  | .emoji tail => tail.isLinked
  | _ => false

/-- What stands to the right of a place: what a character there may join, and
what selectors ask of it, which is the style of emoji, two columns wide, the
style of text, one column wide, or the form of a wide quotation mark. -/
structure Ahead where
  joint : Joint := .nothing
  asEmoji : Bool := false
  asText : Bool := false
  asWideQuote : Bool := false
  deriving DecidableEq, Repr

/-- What stands to the right once a request for the style of emoji has found
no character to apply to. -/
def Ahead.withoutEmojiStyle (a : Ahead) : Ahead :=
  if !a.asEmoji then a
  else if a.joint.bearsStyle then { a with asEmoji := false }
  else {}

/-- What stands to the right of a selector, if the character is one. Inside a
ligature selectors add up, elsewhere the last one counts. -/
def Ahead.select? (a : Ahead) (c : Char) : Option Ahead :=
  let base := if a.joint.bearsStyle then a else {}
  if c = '\uFE0F' then
    some { (if a.joint.isLinked then a else base) with asEmoji := true }
  else if c = '\uFE0E' then some { base with asText := true }
  else if c = '\uFE01' then some { base with asWideQuote := true }
  else none

/-- Emoji that the style of text makes narrow; a few that are boxed ideographs
stay wide. -/
def isNarrowedByStyle (c : Char) : Bool :=
  CodeRange.covers styledRanges c && CodeRange.covers emojiRanges c &&
    !CodeRange.covers [⟨0x1F200, 0x1F2FF⟩] c

/-- The quotation marks that have a wide form. -/
def isCurlyQuote (c : Char) : Bool :=
  c = '\u2018' || c = '\u2019' || c = '\u201C' || c = '\u201D'

/-- A character on its own: its columns, and what may join it from the left. -/
def alone (c : Char) : Int × Joint :=
  match Ligature.ofChar? c, EmojiTail.ofChar? c with
  | some part, _ => (columns c, .letters part)
  | none, some tail => (columns c, .emoji tail)
  | none, none => (columns c, .nothing)

/-- A character before a joint: the columns that it adds, and what may go on
to the left. -/
def Joint.take (joint : Joint) (c : Char) : Int × Joint :=
  match joint with
  | .nothing => alone c
  | .letters part =>
    match part.take? c with
    | some (n, rest) => (n, rest.elim .nothing .letters)
    | none => alone c
  | .emoji tail =>
    match tail.take? c with
    | some (n, tail) => (n, .emoji tail)
    | none => alone c

/-- A character before what stands to its right: the columns that it adds, and
what stands to the right of the place before it. -/
def Ahead.take (a : Ahead) (c : Char) : Int × Ahead :=
  if a.asEmoji && CodeRange.covers styledRanges c then
    (if a.joint.isLinked then 0 else 2, { joint := .emoji .emoji })
  else if c.toNat ≤ 0xA0 then (1, {})
  else
    let a := a.withoutEmojiStyle
    match a.select? c with
    | some a => (0, a)
    | none =>
      if a.asText && isNarrowedByStyle c then (1, {})
      else if a.asWideQuote && isCurlyQuote c then (2, {})
      else
        let (n, joint) := a.joint.take c
        (n, { joint })

/-- The columns of a line, and what stands at its left end to be joined. -/
def widthFrom : List Char → Int × Ahead
  | [] => (0, {})
  | c :: cs =>
    let (n, a) := widthFrom cs
    let (m, a) := a.take c
    (n + m, a)

/-- The columns of a line of text. -/
def width (cs : List Char) : Nat :=
  (widthFrom cs).1.toNat

end Text
end Tabletop
