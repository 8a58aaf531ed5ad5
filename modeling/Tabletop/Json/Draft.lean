/-
# JSON text as far as it can be read

A draft is what a reader finds in a text from the left: values, strings and
numbers as they are written, and the place where no value can be read any
more. A typed reader walks a draft in the order of the text, so of several
faults the first one counts; what it skips only has to be whole.

A draft that is whole and sound can be settled: members of its objects then
stand in ascending order of their keys, each key once.

Key definitions: `Draft`, `Items`, `Members`, `Draft.isWhole`, `Draft.settle`.
-/
import Tabletop.KeyMap
import Tabletop.Json.Basic
import Tabletop.Json.Real

namespace Tabletop
namespace Json

mutual

/-- What stands at one place of a text: nothing that can be read, or a value.
A string is garbled if it escapes half of a surrogate pair. -/
inductive Draft where
  | broken
  | null
  | bool (b : Bool)
  | integer (n : Int)
  | real (r : RealText)
  | string (s : String)
  | garbled
  | array (items : Items)
  | object (members : Members)

/-- The items of an array up to its closing bracket, or up to where no comma
or bracket follows. -/
inductive Items where
  | closed
  | broken
  | cons (head : Draft) (tail : Items)

/-- The members of an object up to its closing bracket, or up to where no
comma or bracket follows. What stands in the place of a key may be no string. -/
inductive Members where
  | closed
  | broken
  | cons (key : Draft) (value : Draft) (tail : Members)

end

/-- Whether a draft can be the key of a member, garbled or not. -/
def Draft.isKey : Draft → Bool
  | .string _ => true
  | .garbled => true
  | _ => false

mutual

/-- Whether a draft has no broken place. -/
def Draft.isWhole : Draft → Bool
  | .broken => false
  | .array items => items.isWhole
  | .object members => members.isWhole
  | _ => true

/-- Whether all the items are whole, up to the closing bracket. -/
def Items.isWhole : Items → Bool
  | .closed => true
  | .broken => false
  | .cons head tail => head.isWhole && tail.isWhole

/-- Whether all the members are whole, up to the closing bracket. -/
def Members.isWhole : Members → Bool
  | .closed => true
  | .broken => false
  | .cons key value tail => key.isKey && value.isWhole && tail.isWhole

end

/-- The items in a list. -/
def Items.toList : Items → List Draft
  | .closed => []
  | .broken => []
  | .cons head tail => head :: tail.toList

/-- Closed items. -/
def Items.ofList : List Draft → Items
  | [] => .closed
  | d :: ds => .cons d (Items.ofList ds)

/-- Closed members with strings for keys. -/
def Members.ofList : List (String × Draft) → Members
  | [] => .closed
  | (k, d) :: ds => .cons (.string k) d (Members.ofList ds)

/-- Closed members with the entries of a map. -/
def Members.ofMap (m : KeyMap Draft) : Members :=
  Members.ofList m.entries

/-- How many arrays and objects may be open at once where a whole tree is
read. -/
def maxDepth : Nat := 127

mutual

/-- The draft with the members of its objects in order, of two with one key
the later; nothing if a place is broken, a string garbled or a number not
finite, or if more than `depth` brackets are open at once. -/
def Draft.settleAt (depth : Nat) : Draft → Option Draft
  | .broken => none
  | .garbled => none
  | .real r => if r.value?.isSome then some (.real r) else none
  | .array items =>
    if depth = 0 then none
    else (items.settleAt (depth - 1)).map fun ds => .array (Items.ofList ds)
  | .object members =>
    if depth = 0 then none
    else (members.settleAt (depth - 1)).map fun es => .object (Members.ofMap (KeyMap.ofList es))
  | d => some d

/-- The settled items. -/
def Items.settleAt (depth : Nat) : Items → Option (List Draft)
  | .closed => some []
  | .broken => none
  | .cons head tail =>
    match head.settleAt depth, tail.settleAt depth with
    | some d, some ds => some (d :: ds)
    | _, _ => none

/-- The settled members, in the order of the text. -/
def Members.settleAt (depth : Nat) : Members → Option (List (String × Draft))
  | .closed => some []
  | .broken => none
  | .cons (.string k) value tail =>
    match value.settleAt depth, tail.settleAt depth with
    | some d, some ds => some ((k, d) :: ds)
    | _, _ => none
  | .cons _ _ _ => none

end

/-- The settled draft. -/
def Draft.settle (d : Draft) : Option Draft :=
  d.settleAt maxDepth

mutual

/-- A value as it is read back. -/
def draft : Json → Draft
  | .null => .null
  | .bool b => .bool b
  | .number n => .integer n
  | .string s => .string s
  | .array items => .array (draftItems items)
  | .object members => .object (draftMembers members)

/-- Items as they are read back. -/
def draftItems : List Json → Items
  | [] => .closed
  | x :: xs => .cons (draft x) (draftItems xs)

/-- Members as they are read back. -/
def draftMembers : List (String × Json) → Members
  | [] => .closed
  | (k, x) :: xs => .cons (.string k) (draft x) (draftMembers xs)

end

end Json
end Tabletop
