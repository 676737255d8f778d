import RecordFilter.Catalog.Definition

/-!
# The current catalog

A `CatalogStore` holds the catalog in use. Replacing it hands back the one before, and a
replacement that fails to load leaves it as it was; a snapshot taken earlier never changes.
-/

namespace RecordFilter

structure CatalogStore where
  current : Catalog := {}
deriving Inhabited

namespace CatalogStore

def snapshot (s : CatalogStore) : Catalog := s.current

/-- Puts a catalog in use; the one before is handed back. -/
def replace (s : CatalogStore) (next : Catalog) : Catalog × CatalogStore :=
  (s.current, ⟨next⟩)

/-- Puts a catalog in use if it loaded. -/
def reload {ε : Type} (s : CatalogStore) (loaded : Except ε Catalog) :
    Except ε Unit × CatalogStore :=
  match loaded with
  | .ok next => (.ok (), (s.replace next).2)
  | .error e => (.error e, s)

theorem reload_error {ε : Type} (s : CatalogStore) (e : ε) : s.reload (.error e) = (.error e, s) :=
  rfl

end CatalogStore

end RecordFilter
