/-
# Catalogs

A catalog holds game systems by their keys, and what was dropped when it was
loaded. A system is found by its key, or else by a key that differs from it in
the case of ASCII letters only, the first one in the order of the keys.

Key definitions: `Catalog`, `Catalog.ofSystems`, `Catalog.builtin`,
`Catalog.get`.
-/
import Tabletop.GameSystem.Preset
import Tabletop.GameSystem.Source

namespace Tabletop

/-- A game system that was dropped, and why. -/
structure Rejected where
  key : String
  error : SystemError
  deriving DecidableEq, Repr

/-- Game systems, each at its own key, and those that were dropped. -/
structure Catalog where
  systems : KeyMap GameSystem
  rejected : List Rejected
  keyed : ∀ e ∈ systems.entries, e.2.key = e.1

/-- No game system has the key. -/
structure UnknownSystem where
  key : String
  available : List String
  deriving DecidableEq, Repr

/-- The error as the user sees it. -/
def UnknownSystem.message (e : UnknownSystem) : String :=
  let available := ", ".intercalate e.available
  s!"unknown game system '{e.key}' (available: {available})"

namespace Catalog

instance : DecidableEq Catalog := fun a b =>
  decidable_of_iff (a.systems = b.systems ∧ a.rejected = b.rejected)
    ⟨fun ⟨hs, hr⟩ => by cases a; cases b; cases hs; cases hr; rfl, fun h => h ▸ ⟨rfl, rfl⟩⟩

/-- The catalog without systems. -/
def empty : Catalog := ⟨∅, [], by simp⟩

instance : Inhabited Catalog := ⟨empty⟩

/-- Puts a game system at its key. -/
def add (c : Catalog) (g : GameSystem) : Catalog where
  systems := c.systems.insert g.key g
  rejected := c.rejected
  keyed e he := by
    rcases KeyMap.key_mem_insertEntry he with rfl | h
    · rfl
    · exact c.keyed e h

/-- Notes that a game system was dropped. -/
def reject (c : Catalog) (r : Rejected) : Catalog :=
  { c with rejected := c.rejected ++ [r] }

/-- The catalog of some systems; of two with one key the later counts. -/
def ofSystems (gs : List GameSystem) : Catalog :=
  gs.foldl add empty

/-- The reference systems. -/
def builtin : Catalog :=
  ofSystems [GameSystem.dnd5e, GameSystem.cyberpunkRed]

/-- The keys, ascending. -/
def keys (c : Catalog) : List String :=
  c.systems.keys

/-- The game systems in the order of their keys. -/
def toList (c : Catalog) : List GameSystem :=
  c.systems.values

/-- The number of game systems. -/
def size (c : Catalog) : Nat :=
  c.systems.size

/-- Whether the catalog has no systems. -/
def isEmpty (c : Catalog) : Bool :=
  c.systems.isEmpty

/-- Whether two keys differ at most in the case of ASCII letters. -/
def sameLetters (a b : String) : Bool :=
  a.toList.map Char.toLower == b.toList.map Char.toLower

/-- The game system with a key, or with one of the same letters. -/
def get? (c : Catalog) (key : String) : Option GameSystem :=
  (c.systems.get? key).or (c.toList.find? fun g => sameLetters g.key key)

/-- The game system with a key, or with one of the same letters. -/
def get (c : Catalog) (key : String) : Except UnknownSystem GameSystem :=
  match c.get? key with
  | some g => .ok g
  | none => .error ⟨key, c.keys⟩

/-- Whether a game system has the key. -/
def contains (c : Catalog) (key : String) : Bool :=
  (c.get? key).isSome

end Catalog
end Tabletop
