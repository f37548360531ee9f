import TaxonomyQuery.Catalog.Basic
import TaxonomyQuery.Clause.Evaluate
import TaxonomyQuery.Text.Lowercase
/-!
Queries on a catalog: the items that a group selects, the terms that a pattern fits, and how many
of the items selected carry each term.
-/

set_option autoImplicit false

namespace TaxonomyQuery

/-- A term's name and how many items carry it. -/
structure Bucket where
  key : String
  count : Nat
deriving DecidableEq, Repr

/-- The pattern stands somewhere in the name, whatever the case of either. -/
def fitsPattern (pattern name : String) : Bool :=
  Text.isSubstring (Text.lowercase pattern.toList) (Text.lowercase name.toList)

namespace Catalog

/-- The items of a type that a group selects, in ascending order of their ids. -/
def query (catalog : Catalog) (postType : String) (group : Group) : List Content :=
  catalog.items.values.filter fun content =>
    content.postType = postType && group.accepts (catalog.termsOf content)

/-- The ids of the terms that a pattern fits, in ascending order. -/
def lookup (catalog : Catalog) : TermLookup := fun taxonomy pattern =>
  ((catalog.termsIn taxonomy).filter fun term => fitsPattern pattern term.name).map (·.id)

/-- The names of the terms of a taxonomy that items carry, once for each item and term. -/
def namesOf (catalog : Catalog) (taxonomy : Taxonomy) (items : List Content) : List String :=
  items.flatMap fun content => (catalog.termsOf content taxonomy).map (·.2)

/-- How often each name occurs, in ascending order of the names. -/
def tally (names : List String) : Table String Nat :=
  names.foldl (fun counts name => counts.insert name ((counts.get? name).getD 0 + 1)) .empty

/-- The buckets of a taxonomy over the items of a type, or those of them that a group selects. -/
def buckets (catalog : Catalog) (taxonomy : Taxonomy) (postType : String)
    (group : Option Group) : List Bucket :=
  let items := catalog.query postType (group.getD {})
  (tally (catalog.namesOf taxonomy items)).entries.map fun entry => ⟨entry.1, entry.2⟩

/-- The buckets of a facet. A facet without a taxonomy has none. -/
def facet (catalog : Catalog) (name postType : String) (group : Option Group) : List Bucket :=
  match Taxonomy.ofFacet? name with
  | some taxonomy => catalog.buckets taxonomy postType group
  | none => []

end Catalog

end TaxonomyQuery
