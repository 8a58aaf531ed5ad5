/-
# Typed readers

A typed reader turns a draft into a value of a domain type or says what is
wrong with it. Drafts come from two sources: directly from a text, where the
first fault of the text counts, or from a tree that was settled before. The
two differ in a few errors only.

A record is an object with the record's fields, in any order, each at most
once, with any other members between them; or an array of the fields in their
order. A choice is the name of one of its cases, or an object with that name
as its only key.

Key definitions: `ReadError`, `Reader`, `readForm`, `readChoice`, `decode`.
-/
import Tabletop.Json.Reader
import Tabletop.Text.Quoted

namespace Tabletop
namespace Json

/-- Where a draft comes from. -/
inductive Source where
  | text
  | tree
  deriving DecidableEq, Repr

/-- What was found where something else was expected. -/
inductive Found where
  | null
  | bool (b : Bool)
  | integer (n : Int)
  | real (text : String)
  | string (s : String)
  | sequence
  | map
  | bareCase
  deriving DecidableEq, Repr

/-- Why a text or a tree is no value of the type. -/
inductive ReadError where
  | malformed
  | wrongType (found : Found) (expected : String)
  | wrongValue (found : Found) (expected : String)
  | wrongLength (length : Nat) (expected : String)
  | missingField (name : String)
  | duplicateField (name : String)
  | unknownCase (name : String) (known : List String)
  deriving DecidableEq, Repr

/-- What was found, in words. -/
def Found.text : Found → String
  | null => "null"
  | bool b => s!"boolean `{b}`"
  | integer n => s!"integer `{n}`"
  | real text => s!"floating point `{text}`"
  | string s => s!"string {Text.quoted s}"
  | sequence => "sequence"
  | map => "map"
  | bareCase => "unit variant"

/-- The names of the cases of a choice, in words. -/
def knownCases : List String → String
  | [a, b] => s!"expected `{a}` or `{b}`"
  | names => "expected one of " ++ ", ".intercalate (names.map fun a => s!"`{a}`")

/-- The error as the user sees it. -/
def ReadError.message : ReadError → String
  | malformed => "not a JSON text"
  | wrongType found expected => s!"invalid type: {found.text}, expected {expected}"
  | wrongValue found expected => s!"invalid value: {found.text}, expected {expected}"
  | wrongLength length expected => s!"invalid length {length}, expected {expected}"
  | missingField name => s!"missing field `{name}`"
  | duplicateField name => s!"duplicate field `{name}`"
  | unknownCase name known => s!"unknown variant `{name}`, {knownCases known}"

/-- A typed reader. -/
abbrev Reader (α : Type) := Source → Draft → Except ReadError α

/-- What a draft is, unless no value stands there. -/
def Draft.found? : Draft → Option Found
  | .broken => none
  | .garbled => none
  | .null => some .null
  | .bool b => some (.bool b)
  | .integer n => some (.integer n)
  | .real r => r.value?.map fun x => .real (realText x)
  | .string s => some (.string s)
  | .array _ => some .sequence
  | .object _ => some .map

/-- The error for a draft in the place of something else. -/
def Draft.unexpected (d : Draft) (expected : String) : ReadError :=
  match d.found? with
  | some found => .wrongType found expected
  | none => .malformed

/-! ### Simple values -/

/-- Reads a text. -/
def text : Reader String
  | _, .string s => .ok s
  | _, d => .error (d.unexpected "a string")

/-- Reads a truth value. -/
def truth : Reader Bool
  | _, .bool b => .ok b
  | _, d => .error (d.unexpected "a boolean")

/-- Reads an integer from `low` to `high`, the values of a type of integers. -/
def integer (low high : Int) (expected : String) : Reader Int
  | _, .integer n =>
    if low ≤ n ∧ n ≤ high then .ok n else .error (.wrongValue (.integer n) expected)
  | _, d => .error (d.unexpected expected)

/-- Reads a signed integer of 32 bits. -/
def int32 : Reader Int32 := fun source d =>
  (integer Int32.minValue.toInt Int32.maxValue.toInt "i32" source d).map Int32.ofInt

/-- Reads an unsigned integer of 32 bits. -/
def uint32 : Reader UInt32 := fun source d =>
  (integer 0 (UInt32.size - 1) "u32" source d).map fun n => UInt32.ofNat n.toNat

/-- Reads a signed integer of 64 bits. -/
def int64 : Reader Int64 := fun source d =>
  (integer Int64.minValue.toInt Int64.maxValue.toInt "i64" source d).map Int64.ofInt

/-- Reads a value or null. -/
def option {α : Type} (r : Reader α) : Reader (Option α)
  | _, .null => .ok none
  | source, d => (r source d).map some

/-- Reads the items of an array, one after the other. -/
def readAll {α : Type} (r : Draft → Except ReadError α) : Items → Except ReadError (List α)
  | .closed => .ok []
  | .broken => .error .malformed
  | .cons head tail => do
    let a ← r head
    let as ← readAll r tail
    return a :: as

/-- Reads an array. -/
def list {α : Type} (r : Reader α) : Reader (List α)
  | source, .array items => readAll (r source) items
  | _, d => .error (d.unexpected "a sequence")

/-- Reads the key of a member. -/
def readKey : Draft → Except ReadError String
  | .string s => .ok s
  | _ => .error .malformed

/-- Reads the members of an object into a map; of two with one key the later
counts. -/
def readEntries {α : Type} (r : Draft → Except ReadError α) :
    Members → KeyMap α → Except ReadError (KeyMap α)
  | .closed, m => .ok m
  | .broken, _ => .error .malformed
  | .cons key value tail, m => do
    let k ← readKey key
    let a ← r value
    readEntries r tail (m.insert k a)

/-- Reads an object with any keys. -/
def map {α : Type} (r : Reader α) : Reader (KeyMap α)
  | source, .object members => readEntries (r source) members ∅
  | _, d => .error (d.unexpected "a map")

/-! ### Records -/

/-- A field of a record: its name, other names that it goes by, whether an
array of the fields may end before it, and the check of its value. -/
structure Field where
  name : String
  others : List String
  assumed : Bool
  check : Source → Draft → Except ReadError Unit

/-- A field that an array of the fields has to give. -/
def Field.needed {α : Type} (name : String) (r : Reader α) : Field :=
  ⟨name, [], false, fun source d => (r source d).map fun _ => ()⟩

/-- A field that has a default. -/
def Field.withDefault {α : Type} (name : String) (r : Reader α) (others : List String) : Field :=
  ⟨name, others, true, fun source d => (r source d).map fun _ => ()⟩

/-- Whether a field goes by a name. -/
def Field.answersTo (f : Field) (name : String) : Bool :=
  f.name == name || f.others.contains name

/-- The drafts of a record's fields by their names. -/
abbrev Form := List (String × Draft)

/-- Collects the fields among the members of an object. -/
def readFields (source : Source) (fields : List Field) :
    Members → Form → Except ReadError Form
  | .closed, form => .ok form
  | .broken, _ => .error .malformed
  | .cons key value tail, form => do
    let k ← readKey key
    match fields.find? (·.answersTo k) with
    | none => if value.isWhole then readFields source fields tail form else .error .malformed
    | some f =>
      if (form.lookup f.name).isSome then .error (.duplicateField f.name)
      else
        f.check source value
        readFields source fields tail ((f.name, value) :: form)

/-- How many elements an array of fields has, in words. -/
def elements (n : Nat) : String :=
  if n = 1 then "1 element" else s!"{n} elements"

/-- The error for items that stand where an array should have ended, after
`n` others. -/
def tooLong (source : Source) (n : Nat) (items : Items) : ReadError :=
  match source with
  | .text => .malformed
  | .tree => .wrongLength (n + items.toList.length) "fewer elements in array"

/-- Collects the fields from an array that gives them in their order; `n` of
`total` have been gone through. -/
def readRow (source : Source) (expected : String) (total : Nat) :
    List Field → Items → Nat → Form → Except ReadError Form
  | _, .broken, _, _ => .error .malformed
  | [], .closed, _, form => .ok form
  | [], items, n, _ => .error (tooLong source n items)
  | f :: fields, .closed, n, form =>
    if f.assumed then readRow source expected total fields .closed (n + 1) form
    else .error (.wrongLength n s!"{expected} with {elements total}")
  | f :: fields, .cons d items, n, form => do
    f.check source d
    readRow source expected total fields items (n + 1) ((f.name, d) :: form)

/-- Reads the fields of a record, which `expected` names. -/
def readForm (expected : String) (fields : List Field) : Reader Form
  | source, .object members => readFields source fields members []
  | source, .array items => readRow source expected fields.length fields items 0 []
  | _, d => .error (d.unexpected expected)

/-- The value of a field that has to be there. -/
def Form.need {α : Type} (form : Form) (source : Source) (name : String) (r : Reader α) :
    Except ReadError α :=
  match form.lookup name with
  | some d => r source d
  | none => .error (.missingField name)

/-- The value of a field, or its default. -/
def Form.get {α : Type} (form : Form) (source : Source) (name : String) (r : Reader α)
    (default : α) : Except ReadError α :=
  match form.lookup name with
  | some d => r source d
  | none => .ok default

/-! ### Choices -/

/-- A case of a choice: a value on its own, or a record. -/
inductive Case (α : Type) where
  | bare (value : α)
  | record (read : Reader α)

/-- The case that stands as a name alone. -/
def Case.alone {α : Type} : Case α → Except ReadError α
  | .bare a => .ok a
  | .record _ => .error (.wrongType .bareCase "struct variant")

/-- The case that stands as a key with a value. -/
def Case.within {α : Type} (c : Case α) (source : Source) (value : Draft) : Except ReadError α :=
  match c, source, value with
  | .bare a, _, .null => .ok a
  | .bare _, _, d => .error (d.unexpected "unit")
  | .record read, .text, d => read .text d
  | .record read, .tree, .object members => read .tree (.object members)
  | .record _, .tree, d => .error (d.unexpected "struct variant")

/-- The case with a name. -/
def findCase {α : Type} (cases : List (String × Case α)) (name : String) :
    Except ReadError (Case α) :=
  match cases.lookup name with
  | some c => .ok c
  | none => .error (.unknownCase name (cases.map (·.1)))

/-- Reads a choice. -/
def readChoice {α : Type} (cases : List (String × Case α)) : Reader α
  | _, .string name => do (← findCase cases name).alone
  | .text, .object (.cons key value tail) => do
    let c ← findCase cases (← readKey key)
    let a ← c.within .text value
    match tail with
    | .closed => return a
    | _ => .error .malformed
  | .text, _ => .error .malformed
  | .tree, .object (.cons key value .closed) => do
    (← findCase cases (← readKey key)).within .tree value
  | .tree, .object _ => .error (.wrongValue .map "map with a single key")
  | .tree, d => .error (d.unexpected "string or map")

/-! ### Whole texts -/

/-- Reads a value of a type directly from a text. -/
def decode {α : Type} (r : Reader α) (s : String) : Except ReadError α := do
  let document := Document.ofText s
  let a ← r .text document.root
  if document.ended then return a else .error .malformed

/-- Reads a text as a tree. -/
def tree (s : String) : Except ReadError Draft :=
  let document := Document.ofText s
  match document.root.settle, document.ended with
  | some d, true => .ok d
  | _, _ => .error .malformed

end Json
end Tabletop
