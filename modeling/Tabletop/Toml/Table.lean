/-
# TOML tables

A document is a table whose entries are values and other tables. A table is
opened by a header of its own, by a longer header that leads through it, by a
dotted key, or in one line with its entries; the ways do not mix: each table
has one header at most, and a table that a dotted key or a line has opened
cannot be continued by another one.

Of an array of tables only the last table can be reached, and only it is kept.

Key definitions: `Toml.Node`, `Toml.Table`, `Table.assign`,
`Table.openTable`, `Table.openItem`.
-/

namespace Tabletop
namespace Toml

/-- How a table was opened. -/
inductive Origin where
  | header
  | path
  | dotted
  | inline
  deriving DecidableEq, Repr

/-- A value: a text, an integer, something else that stands for itself, a
table, or an array of tables with its last one. -/
inductive Node where
  | text (s : String)
  | integer (n : Int)
  | other
  | table (origin : Origin) (entries : List (String × Node))
  | tables (last : List (String × Node))

/-- The entries of a table. -/
abbrev Table := List (String × Node)

namespace Table

/-- Puts a value at a key, in the place of the one that is there. -/
def set (t : Table) (k : String) (n : Node) : Table :=
  (k, n) :: t.filter (·.1 != k)

/-- Adds a value at a new key. -/
def add (t : Table) (k : String) (n : Node) : Option Table :=
  if (t.lookup k).isSome then none else some (t.set k n)

/-- Puts a value at a dotted key. The key leads through tables that have no
header, and ends in one of its own making; `here` says that this is where it
may end. -/
def assign (value : Node) : List String → Bool → Table → Option Table
  | [], _, _ => none
  | [k], here, t => if here then t.add k value else none
  | k :: ks, _, t =>
    match t.lookup k with
    | none => (assign value ks true []).map fun s => t.set k (.table .dotted s)
    | some (.table .dotted s) => (assign value ks true s).map fun s => t.set k (.table .dotted s)
    | some (.table .path s) => (assign value ks false s).map fun s => t.set k (.table .path s)
    | some (.tables s) => (assign value ks false s).map fun s => t.set k (.tables s)
    | some _ => none

/-- Changes the table that the keys of a header lead to. -/
def within (change : Table → Option Table) : List String → Table → Option Table
  | [], t => change t
  | k :: ks, t =>
    match t.lookup k with
    | none => (within change ks []).map fun s => t.set k (.table .path s)
    | some (.table .inline _) => none
    | some (.table o s) => (within change ks s).map fun s => t.set k (.table o s)
    | some (.tables s) => (within change ks s).map fun s => t.set k (.tables s)
    | some _ => none

/-- Opens a table under a key: a new one, or one that a longer header has led
through. -/
def openTable (k : String) (t : Table) : Option Table :=
  match t.lookup k with
  | none => some (t.set k (.table .header []))
  | some (.table .path s) => some (t.set k (.table .header s))
  | some _ => none

/-- Opens the next table of an array of tables. -/
def openItem (k : String) (t : Table) : Option Table :=
  match t.lookup k with
  | none => some (t.set k (.tables []))
  | some (.tables _) => some (t.set k (.tables []))
  | some _ => none

end Table
end Toml
end Tabletop
