/-
# The current catalog

A handle holds the catalog in use. A snapshot of it stays as it is when the
handle moves on to another catalog; each catalog that is put in place has a
number of its own, so a snapshot can be told from a later one of the same
content.

Key definitions: `Snapshot`, `CatalogHandle`, `CatalogHandle.replace`,
`CatalogHandle.reload`.
-/
import Tabletop.Catalog.Load

namespace Tabletop

/-- A catalog as it was put in place, with the number of that change. -/
structure Snapshot where
  catalog : Catalog
  revision : Nat
  deriving DecidableEq

/-- The place of the catalog in use. -/
structure CatalogHandle where
  snapshot : Snapshot
  deriving DecidableEq

namespace CatalogHandle

/-- A handle on a first catalog. -/
def ofCatalog (c : Catalog) : CatalogHandle := ⟨⟨c, 0⟩⟩

instance : Inhabited CatalogHandle := ⟨ofCatalog .empty⟩

/-- Puts a catalog in place; gives the snapshot that was there before. -/
def replace (h : CatalogHandle) (c : Catalog) : Snapshot × CatalogHandle :=
  (h.snapshot, ⟨⟨c, h.snapshot.revision + 1⟩⟩)

/-- Puts a catalog in place if it could be loaded; gives its snapshot. -/
def reload (h : CatalogHandle) (loaded : Except CatalogError Catalog) :
    Except CatalogError Snapshot × CatalogHandle :=
  match loaded with
  | .error e => (.error e, h)
  | .ok c =>
    let h := (h.replace c).2
    (.ok h.snapshot, h)

/-- Whether a snapshot is the one in place. -/
def isCurrent (h : CatalogHandle) (s : Snapshot) : Bool :=
  s.revision == h.snapshot.revision

end CatalogHandle
end Tabletop
