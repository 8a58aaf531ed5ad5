/-
# Similarity of two texts

The Jaro-Winkler similarity, a number from 0 to 1. Characters of the two texts
match when they are equal and not too far apart; the score grows with the
share of matches, shrinks with the matches that come in another order, and a
common beginning brings a good score nearer to 1.

Key definitions: `jaro`, `similarity`, `scoreRank`.
-/

namespace Tabletop
namespace Text

/-- Marks the first free character equal to `c` at a position from `low` to
before `high` as used; the list starts at position `j`. -/
def claim (c : Char) (low high : Nat) : Nat → List (Char × Bool) → Option (List (Char × Bool))
  | _, [] => none
  | j, (d, used) :: rest =>
    if !used && low ≤ j && j < high && c == d then some ((d, true) :: rest)
    else (claim c low high (j + 1) rest).map ((d, used) :: ·)

/-- Goes through the left text from position `i`, with a window of `range`
positions on either side: the matched characters of the left text, and the
right text with its matched characters marked. -/
def pairUp (range : Nat) : Nat → List Char → List (Char × Bool) → List Char × List (Char × Bool)
  | _, [], right => ([], right)
  | i, c :: left, right =>
    match claim c (i - range) (i + range + 1) 0 right with
    | some right =>
      let (matched, right) := pairUp range (i + 1) left right
      (c :: matched, right)
    | none => pairUp range (i + 1) left right

/-- The Jaro similarity. -/
def jaro (left right : List Char) : Float :=
  if left.isEmpty && right.isEmpty then 1.0
  else if left.isEmpty || right.isEmpty then 0.0
  else
    let range := max left.length right.length / 2 - 1
    let (mine, marked) := pairUp range 0 left (right.map (·, false))
    let theirs := (marked.filter (·.2)).map (·.1)
    let moved := ((mine.zip theirs).countP fun p => p.1 != p.2) / 2
    if mine.isEmpty then 0.0
    else
      let m := Float.ofNat mine.length
      (m / Float.ofNat left.length + m / Float.ofNat right.length +
        (m - Float.ofNat moved) / m) / 3.0

/-- The length of the common beginning of two texts. -/
def commonPrefix : List Char → List Char → Nat
  | a :: as, b :: bs => if a = b then commonPrefix as bs + 1 else 0
  | _, _ => 0

/-- The Jaro-Winkler similarity: a Jaro score above 0.7 moves up by a tenth of
what it lacks for each of the first four characters that agree. -/
def similarity (left right : List Char) : Float :=
  let score := jaro left right
  if score > 0.7 then
    score + 0.1 * Float.ofNat (min (commonPrefix left right) 4) * (1.0 - score)
  else score

/-- The place of a floating-point number in the total order of all of them:
by sign, then by magnitude. -/
def scoreRank (x : Float) : Int :=
  let bits := x.toBits.toNat
  if bits.testBit 63 then Int64.maxValue.toInt - bits else bits

end Text
end Tabletop
