import TaxonomyQuery.Catalog.Basic
/-!
Catalogs from snapshots: lists of terms and items with ids of their own.
-/

set_option autoImplicit false

namespace TaxonomyQuery

structure Snapshot where
  terms : List Term := []
  items : List Content := []
deriving DecidableEq, Repr

namespace Catalog

def loadTerm (catalog : Catalog) (term : Term) : Except CatalogError Catalog :=
  if catalog.terms.contains term.id then .error (.duplicateTerm term.id)
  else .ok
    { catalog with
      terms := catalog.terms.insert term.id term
      lastId := if catalog.lastId < term.id then term.id else catalog.lastId }

/-- Adds an item to the terms that it refers to; repeated references count once. -/
def loadItem (catalog : Catalog) (content : Content) : Except CatalogError Catalog :=
  if catalog.items.contains content.id then .error (.duplicateItem content.id)
  else
    match catalog.firstUnknown? content.terms with
    | some id => .error (.unknownReference content.id id)
    | none => .ok
      { catalog with
        items := catalog.items.insert content.id
          { content with terms := appendNew [] content.terms }
        lastId := if catalog.lastId < content.id then content.id else catalog.lastId }

def loadTerms : Catalog → List Term → Except CatalogError Catalog
  | catalog, [] => .ok catalog
  | catalog, term :: rest => do
    let catalog ← catalog.loadTerm term
    catalog.loadTerms rest

def loadItems : Catalog → List Content → Except CatalogError Catalog
  | catalog, [] => .ok catalog
  | catalog, content :: rest => do
    let catalog ← catalog.loadItem content
    catalog.loadItems rest

/-- The catalog of a snapshot, or the first thing in it that does not fit: terms come before items,
so an item may refer to any term of the snapshot. -/
def ofSnapshot (snapshot : Snapshot) : Except CatalogError Catalog := do
  let catalog ← empty.loadTerms snapshot.terms
  catalog.loadItems snapshot.items

end Catalog

end TaxonomyQuery
