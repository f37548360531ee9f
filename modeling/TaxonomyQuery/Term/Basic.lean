import TaxonomyQuery.Text.Character
import TaxonomyQuery.Text.Numeral
/-!
Taxonomies, references to their terms by id or by name, and the terms a record has been given.
-/

set_option autoImplicit false

namespace TaxonomyQuery

inductive Taxonomy where
  | tag
  | category
deriving DecidableEq, Repr

namespace Taxonomy

def name : Taxonomy → String
  | .tag => "post_tag"
  | .category => "category"

/-- The taxonomy that a facet of the given name counts. -/
def ofFacet? (facet : String) : Option Taxonomy :=
  if facet = "tags" then some .tag
  else if facet = "categories" then some .category
  else none

end Taxonomy

/-- The property of a term that a condition compares. -/
inductive TermField where
  | name
  | id
deriving DecidableEq, Repr

inductive TermValue where
  | id (value : Int64)
  | name (value : String)
deriving DecidableEq, Repr

namespace TermValue

/-- The id referred to. A name counts as one if it is a numeral, with or without white space around
it. -/
def id? : TermValue → Option Int64
  | .id value => some value
  | .name value => Text.readInt64? (Text.trim value.toList)

def text : TermValue → String
  | .id value => String.ofList (Text.decimal value.toInt)
  | .name value => value

end TermValue

/-- The argument of a condition. -/
inductive Terms where
  | one (value : TermValue)
  | many (values : List TermValue)
deriving DecidableEq, Repr

namespace Terms

def values : Terms → List TermValue
  | .one value => [value]
  | .many values => values

def ids (ids : List Int64) : Terms := .many (ids.map .id)

@[simp] theorem values_one (value : TermValue) : (one value).values = [value] := rfl

@[simp] theorem values_many (values : List TermValue) : (many values).values = values := rfl

@[simp] theorem values_ids (list : List Int64) : (ids list).values = list.map .id := rfl

end Terms

/-- The terms a record has been given in each taxonomy, as ids and names. -/
abbrev TermSource := Taxonomy → List (Int64 × String)

/-- The ids of the terms of a taxonomy that a pattern stands for. -/
abbrev TermLookup := Taxonomy → String → List Int64

/-- Knows no term. -/
def TermLookup.none : TermLookup := fun _ _ => []

end TaxonomyQuery
