/-
# Emoji sequences

An emoji may be written as a sequence of characters that is drawn as one
picture, two columns wide: a person with a skin tone, a flag, emoji with
joiners between them. Like ligatures they are gone through from right to left.
What stands to the right of a joiner has its columns already, so a complete
emoji before the joiner adds none.

Key definitions: `EmojiTail`, `EmojiTail.ofChar?`, `EmojiTail.take?`.
-/
import Tabletop.Text.EmojiTable
import Tabletop.Text.Ligature

namespace Tabletop
namespace Text

/-- The right part of an emoji sequence: an emoji, a skin tone, the letters of
flags; or, with a joiner and another emoji to the right, nothing yet, a
keycap, letters of flags, or the tags of a flag of a region. -/
inductive EmojiTail where
  | emoji
  | skin
  | flagLetter
  | flagLetters
  | linked
  | linkedKeycap
  | linkedLetter
  | linkedPair
  | linkedTriple
  | tagLetters (count : Nat)
  | tagDigits (count : Nat)
  deriving DecidableEq, Repr

namespace EmojiTail

/-- Whether the code point of a character lies within bounds. -/
def within (first last : Nat) (c : Char) : Bool :=
  CodeRange.covers [⟨first, last⟩] c

/-- Letters that spell the flags of countries in pairs. -/
def isFlagLetter : Char → Bool := within 0x1F1E6 0x1F1FF

/-- The skin tones. -/
def isSkin : Char → Bool := within 0x1F3FB 0x1F3FF

/-- Letters in the tags of a flag. -/
def isTagLetter : Char → Bool := within 0xE0061 0xE007A

/-- Digits in the tags of a flag. -/
def isTagDigit : Char → Bool := within 0xE0030 0xE0039

/-- The sequence that may end with a character. -/
def ofChar? (c : Char) : Option EmojiTail :=
  if isFlagLetter c then some .flagLetter
  else if isSkin c then some .skin
  else if CodeRange.covers emojiRanges c then some .emoji
  else none

/-- Whether an emoji sequence with a joiner is complete to the right, so that
a character in emoji style adds no columns. -/
def isLinked : EmojiTail → Bool
  | .linked | .linkedKeycap => true
  | _ => false

/-- Whether a flag may be spelled by tags that are complete to the right. -/
def isRegion : EmojiTail → Bool
  | .tagLetters n => 3 ≤ n && n ≤ 6
  | .tagDigits n => n == 3
  | _ => false

/-- Takes a letter or digit into the tags of a flag. -/
def tag? (e : EmojiTail) (c : Char) : Option EmojiTail :=
  match e with
  | .tagLetters n =>
    if isTagLetter c && n < 6 then some (.tagLetters (n + 1))
    else if isTagDigit c && n < 5 then some (.tagDigits 1)
    else none
  | .tagDigits n => if isTagDigit c && n < 3 then some (.tagDigits (n + 1)) else none
  | _ => none

/-- The black flag, which tags turn into the flag of a region. -/
def flag : Char := Char.ofNat 0x1F3F4

/-- Takes a character into the sequence after it: the columns that it adds,
and the longer sequence. -/
def take? (e : EmojiTail) (c : Char) : Option (Int × EmojiTail) :=
  match e with
  | .emoji | .flagLetters =>
    if c = Ligature.joiner then some (0, .linked)
    else if e = .flagLetters && isFlagLetter c then some (1, .flagLetters)
    else none
  | .skin =>
    if CodeRange.covers skinRanges c then some (0, .emoji)
    else if c = Ligature.joiner then some (0, .linked)
    else none
  | .flagLetter => if isFlagLetter c then some (1, .flagLetters) else none
  | .linked =>
    if c = '\u20E3' then some (0, .linkedKeycap)
    else if isFlagLetter c then some (1, .linkedLetter)
    else if isSkin c then some (0, .skin)
    else if c = Char.ofNat 0xE007F then some (0, .tagLetters 0)
    else if CodeRange.covers emojiRanges c then some (0, .emoji)
    else none
  | .linkedKeycap => none
  | .linkedLetter => if isFlagLetter c then some (-1, .linkedPair) else none
  | .linkedPair =>
    if c = Ligature.joiner then some (0, .linked)
    else if isFlagLetter c then some (3, .linkedTriple)
    else none
  | .linkedTriple =>
    if c = Ligature.joiner then some (0, .linked)
    else if isFlagLetter c then some (-1, .linkedPair)
    else none
  | .tagLetters _ | .tagDigits _ =>
    if e.isRegion && c = flag then some (0, .emoji)
    else (e.tag? c).map (0, ·)

end EmojiTail
end Text
end Tabletop
