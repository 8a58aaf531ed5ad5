/-
# JSON values

The values that the program writes. Their numbers are whole; members of an
object stand in the order in which they are written.

Key definition: `Json`.
-/
import Tabletop.KeyMap

namespace Tabletop

/-- A JSON value with whole numbers. -/
inductive Json where
  | null
  | bool (b : Bool)
  | number (n : Int)
  | string (s : String)
  | array (items : List Json)
  | object (members : List (String × Json))

namespace Json

/-- A list of texts. -/
def strings (ss : List String) : Json :=
  .array (ss.map .string)

/-- An object with the entries of a map, its keys ascending. -/
def ofMap {α : Type} (value : α → Json) (m : KeyMap α) : Json :=
  .object (m.entries.map fun e => (e.1, value e.2))

/-- A value or null. -/
def ofOption {α : Type} (value : α → Json) : Option α → Json
  | some a => value a
  | none => .null

/-- A member that is left out where there is no value. -/
def optional {α : Type} (name : String) (value : α → Json) : Option α → List (String × Json)
  | some a => [(name, value a)]
  | none => []

end Json
end Tabletop
