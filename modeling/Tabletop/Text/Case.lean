/-
# Letter case

The small and the capital form of a character, which may have several code
points, and of a text. In a text a capital sigma at the end of a word becomes
the final small sigma: one with a cased letter somewhere before it and none
after it, where case-ignorable characters are looked through.

Key definitions: `lowerChar`, `upperChar`, `lower`, `upper`, `lowerEach`.
-/
import Tabletop.Text.CaseTable

namespace Tabletop
namespace Text

/-- The image of a character under a case mapping. -/
def mapCase (shifts : List CodeShift) (expansions : List (Nat × List Nat)) (c : Char) : List Char :=
  match expansions.lookup c.toNat with
  | some ns => ns.map Char.ofNat
  | none =>
    match CodeShift.apply? shifts c.toNat with
    | some n => [Char.ofNat n]
    | none => [c]

/-- The small form of a character on its own. -/
def lowerChar (c : Char) : List Char :=
  mapCase lowerShifts lowerExpansions c

/-- The capital form of a character. -/
def upperChar (c : Char) : List Char :=
  mapCase upperShifts upperExpansions c

/-- Whether a character is a letter with case. -/
def isCased (c : Char) : Bool :=
  CodeRange.covers casedRanges c

/-- Whether casing looks through a character. -/
def isCaseIgnorable (c : Char) : Bool :=
  CodeRange.covers caseIgnorableRanges c

/-- Whether the first character that casing does not look through is cased. -/
def meetsCased (cs : List Char) : Bool :=
  match cs.dropWhile isCaseIgnorable with
  | c :: _ => isCased c
  | [] => false

/-- The small form of a capital sigma between two texts, the first one
reversed. -/
def lowerSigma (before after : List Char) : Char :=
  if meetsCased before && !meetsCased after then 'ς' else 'σ'

/-- The small form of a text that follows another one, given reversed. -/
def lowerAfter (before : List Char) : List Char → List Char
  | [] => []
  | c :: cs =>
    (if c = 'Σ' then [lowerSigma before cs] else lowerChar c) ++ lowerAfter (c :: before) cs

/-- The small form of a text. -/
def lower (cs : List Char) : List Char :=
  lowerAfter [] cs

/-- The small forms of the characters, each on its own. -/
def lowerEach (cs : List Char) : List Char :=
  cs.flatMap lowerChar

/-- The capital form of a text. -/
def upper (cs : List Char) : List Char :=
  cs.flatMap upperChar

end Text
end Tabletop
