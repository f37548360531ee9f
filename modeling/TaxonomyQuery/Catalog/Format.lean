import TaxonomyQuery.Catalog.Query
import TaxonomyQuery.Catalog.Snapshot
import TaxonomyQuery.Term.Format
/-!
The written form of terms, items, snapshots and buckets.
-/

set_option autoImplicit false

namespace TaxonomyQuery

namespace Term

def toJson (term : Term) : Json :=
  .object [("id", .integer term.id.toInt), ("taxonomy", term.taxonomy.toJson),
    ("name", .string term.name)]

/-- A term of which some fields have been read. -/
structure Draft where
  id : Option Int64 := none
  taxonomy : Option Taxonomy := none
  name : Option String := none

def Draft.finish (draft : Draft) : Except DecodeError Term := do
  let id ← Record.need "id" draft.id
  let taxonomy ← Record.need "taxonomy" draft.taxonomy
  let name ← Record.need "name" draft.name
  .ok ⟨id, taxonomy, name⟩

def record : Record Draft Term where
  name := "Term"
  isOpen := true
  fields := [
    .required "id" Decoder.int64 fun value draft => { draft with id := some value },
    .required "taxonomy" Taxonomy.decoder fun value draft => { draft with taxonomy := some value },
    .required "name" Decoder.string fun value draft => { draft with name := some value }]
  blank := {}
  finish := Draft.finish

def decoder : Decoder Term := record.decode

end Term

namespace Content

def toJson (content : Content) : Json :=
  .object [("id", .integer content.id.toInt), ("post_type", .string content.postType),
    ("title", .string content.title),
    ("terms", .array (content.terms.map fun id => .integer id.toInt))]

/-- An item of which some fields have been read. -/
structure Draft where
  id : Option Int64 := none
  postType : Option String := none
  title : Option String := none
  terms : List Int64 := []

def Draft.finish (draft : Draft) : Except DecodeError Content := do
  let id ← Record.need "id" draft.id
  let postType ← Record.need "post_type" draft.postType
  let title ← Record.need "title" draft.title
  .ok ⟨id, postType, title, draft.terms⟩

def record : Record Draft Content where
  name := "ContentItem"
  isOpen := true
  fields := [
    .required "id" Decoder.int64 fun value draft => { draft with id := some value },
    .required "post_type" Decoder.string fun value draft =>
      { draft with postType := some value },
    .required "title" Decoder.string fun value draft => { draft with title := some value },
    .defaulted "terms" (Decoder.list Decoder.int64) fun value draft =>
      { draft with terms := value }]
  blank := {}
  finish := Draft.finish

def decoder : Decoder Content := record.decode

end Content

namespace Snapshot

def toJson (snapshot : Snapshot) : Json :=
  .object [("terms", .array (snapshot.terms.map (·.toJson))),
    ("items", .array (snapshot.items.map (·.toJson)))]

def record : Record Snapshot Snapshot where
  name := "CatalogSnapshot"
  isOpen := true
  fields := [
    .defaulted "terms" (Decoder.list Term.decoder) fun value snapshot =>
      { snapshot with terms := value },
    .defaulted "items" (Decoder.list Content.decoder) fun value snapshot =>
      { snapshot with items := value }]
  blank := {}
  finish := .ok

def decoder : Decoder Snapshot := record.decode

end Snapshot

namespace Bucket

def toJson (bucket : Bucket) : Json :=
  .object [("key", .string bucket.key), ("count", .integer bucket.count)]

/-- A bucket of which some fields have been read. -/
structure Draft where
  key : Option String := none
  count : Option Nat := none

def Draft.finish (draft : Draft) : Except DecodeError Bucket := do
  let key ← Record.need "key" draft.key
  let count ← Record.need "count" draft.count
  .ok ⟨key, count⟩

def record : Record Draft Bucket where
  name := "BucketItem"
  isOpen := true
  fields := [
    .required "key" Decoder.string fun value draft => { draft with key := some value },
    .required "count" Decoder.natural fun value draft => { draft with count := some value }]
  blank := {}
  finish := Draft.finish

def decoder : Decoder Bucket := record.decode

end Bucket

end TaxonomyQuery
