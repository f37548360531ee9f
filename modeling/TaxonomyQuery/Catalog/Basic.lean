import TaxonomyQuery.Table
import TaxonomyQuery.Term.Basic
/-!
Catalogs: terms, and content that terms have been assigned to.
-/

set_option autoImplicit false

namespace TaxonomyQuery

structure Term where
  id : Int64
  taxonomy : Taxonomy
  name : String
deriving DecidableEq, Repr

/-- An item of content, with the ids of its terms in the order they were assigned in. -/
structure Content where
  id : Int64
  postType : String
  title : String
  terms : List Int64 := []
deriving DecidableEq, Repr

inductive CatalogError where
  | duplicateTerm (id : Int64)
  | duplicateItem (id : Int64)
  | unknownReference (item term : Int64)
  | unknownTerm (id : Int64)
  | unknownItem (id : Int64)
deriving DecidableEq, Repr

def CatalogError.message (error : CatalogError) : String :=
  let shown (id : Int64) := String.ofList (Text.decimal id.toInt)
  match error with
  | .duplicateTerm id => "duplicate term id " ++ shown id
  | .duplicateItem id => "duplicate content item id " ++ shown id
  | .unknownReference item term =>
    "content item " ++ shown item ++ " references unknown term " ++ shown term
  | .unknownTerm id => "term " ++ shown id ++ " does not exist"
  | .unknownItem id => "content item " ++ shown id ++ " does not exist"

/-- No term and no item has an id greater than `lastId`. -/
structure Catalog where
  terms : Table Int64 Term
  items : Table Int64 Content
  lastId : Int64

namespace Catalog

def empty : Catalog := ⟨.empty, .empty, 0⟩

def term? (catalog : Catalog) (id : Int64) : Option Term := catalog.terms.get? id

def item? (catalog : Catalog) (id : Int64) : Option Content := catalog.items.get? id

/-- The term of that name with the least id. -/
def termByName? (catalog : Catalog) (taxonomy : Taxonomy) (name : String) : Option Term :=
  catalog.terms.values.find? fun term => term.taxonomy = taxonomy && term.name = name

def termsIn (catalog : Catalog) (taxonomy : Taxonomy) : List Term :=
  catalog.terms.values.filter (·.taxonomy = taxonomy)

/-- Ids ascend: the next one follows all that are there. -/
def nextId (catalog : Catalog) : Int64 := catalog.lastId + 1

/-- The id of the term of that name, which is added where there is none. -/
def addTerm (catalog : Catalog) (taxonomy : Taxonomy) (name : String) : Int64 × Catalog :=
  match catalog.termByName? taxonomy name with
  | some term => (term.id, catalog)
  | none =>
    let id := catalog.nextId
    (id, { catalog with terms := catalog.terms.insert id ⟨id, taxonomy, name⟩, lastId := id })

def addItem (catalog : Catalog) (postType title : String) : Int64 × Catalog :=
  let id := catalog.nextId
  (id, { catalog with items := catalog.items.insert id ⟨id, postType, title, []⟩, lastId := id })

/-- The ids of a list followed by those new to it, each once. -/
def appendNew (old : List Int64) : List Int64 → List Int64
  | [] => old
  | id :: rest => appendNew (if old.contains id then old else old ++ [id]) rest

def firstUnknown? (catalog : Catalog) (ids : List Int64) : Option Int64 :=
  ids.find? fun id => !catalog.terms.contains id

/-- Puts one term on an item, behind those it has, unless it has it. -/
def attach (item : Int64) (catalog : Catalog) (id : Int64) : Catalog :=
  match catalog.item? item with
  | none => catalog
  | some content =>
    if content.terms.contains id then catalog
    else
      { catalog with
        items := catalog.items.insert item { content with terms := content.terms ++ [id] } }

/-- Assigns terms to an item: what comes of it and the catalog afterwards, be it refused or not.
Terms are attached one by one, once all of them are known to be there, and the item. -/
def tryAssign (catalog : Catalog) (item : Int64) (ids : List Int64) :
    Except CatalogError Unit × Catalog :=
  match catalog.firstUnknown? ids with
  | some id => (.error (.unknownTerm id), catalog)
  | none =>
    match catalog.item? item with
    | none => (.error (.unknownItem item), catalog)
    | some _ => (.ok (), ids.foldl (attach item) catalog)

/-- The catalog afterwards, where the terms are assigned. -/
def assign (catalog : Catalog) (item : Int64) (ids : List Int64) : Except CatalogError Catalog :=
  (catalog.tryAssign item ids).1.map fun _ => (catalog.tryAssign item ids).2

/-- The terms of an item as a condition sees them. -/
def termsOf (catalog : Catalog) (content : Content) : TermSource := fun taxonomy =>
  ((content.terms.filterMap catalog.term?).filter (·.taxonomy = taxonomy)).map fun term =>
    (term.id, term.name)

@[simp] theorem appendNew_nil (old : List Int64) : appendNew old [] = old := rfl

theorem appendNew_append (old first second : List Int64) :
    appendNew old (first ++ second) = appendNew (appendNew old first) second := by
  induction first generalizing old with
  | nil => rfl
  | cons id rest ih => exact ih _

/-- What is new comes behind what is old, each id where it is listed first. -/
theorem appendNew_eq (old new : List Int64) :
    appendNew old new = old ++ (new.removeAll old).eraseDups := by
  induction new generalizing old with
  | nil => simp
  | cons id rest ih =>
    rw [appendNew, ih, List.cons_removeAll]
    by_cases among : id ∈ old
    · simp [among]
    · have others : rest.removeAll (old ++ [id]) =
          (rest.removeAll old).filter fun other => !other == id := by
        simp only [List.removeAll, List.filter_filter]
        apply List.filter_congr
        simp [Bool.and_comm, Bool.beq_eq_decide_eq]
      simp [among, others, List.eraseDups_cons]

theorem mem_appendNew {id : Int64} {old new : List Int64} :
    id ∈ appendNew old new ↔ id ∈ old ∨ id ∈ new := by
  induction new generalizing old with
  | nil => simp
  | cons first rest ih =>
    rw [appendNew, ih, List.mem_cons]
    split
    · rename_i present
      have member : first ∈ old := List.contains_iff_mem.mp present
      constructor
      · exact Or.imp_right Or.inr
      · rintro (among | rfl | among)
        · exact .inl among
        · exact .inl member
        · exact .inr among
    · rw [List.mem_append, List.mem_singleton, or_assoc]

theorem nodup_appendNew {old : List Int64} (distinct : old.Nodup) (new : List Int64) :
    (appendNew old new).Nodup := by
  induction new generalizing old with
  | nil => exact distinct
  | cons first rest ih =>
    apply ih
    split
    · exact distinct
    · rename_i absent
      have fresh : first ∉ old := fun member => absent (List.contains_iff_mem.mpr member)
      refine List.nodup_append.mpr ⟨distinct, by simp, ?_⟩
      intro id member other single
      rw [List.mem_singleton.mp single]
      rintro rfl
      exact fresh member

theorem firstUnknown?_eq_none_iff {catalog : Catalog} {ids : List Int64} :
    catalog.firstUnknown? ids = none ↔ ∀ id ∈ ids, catalog.terms.contains id := by
  simp [firstUnknown?, List.find?_eq_none]

end Catalog

end TaxonomyQuery
