import TaxonomyQuery.Clause.Basic
/-!
Whether the terms of a record satisfy a clause or a group.
-/

set_option autoImplicit false

namespace TaxonomyQuery

/-- The value refers to one of the terms by the field compared. -/
def TermField.refers (field : TermField) (terms : List (Int64 × String)) (value : TermValue) :
    Bool :=
  match field with
  | .id =>
    match value.id? with
    | some wanted => terms.any (·.1 = wanted)
    | none => false
  | .name => terms.any (·.2 = value.text)

namespace TermField

@[simp] theorem refers_id (terms : List (Int64 × String)) (id : Int64) :
    TermField.id.refers terms (.id id) = terms.any (·.1 = id) := rfl

@[simp] theorem refers_name (terms : List (Int64 × String)) (name : String) :
    TermField.name.refers terms (.name name) = terms.any (·.2 = name) := rfl

end TermField

/-- One of the terms listed has been given to the record, or none has. -/
def Clause.accepts (clause : Clause) (source : TermSource) : Bool :=
  let hit := clause.terms.values.any (clause.field.refers (source clause.taxonomy))
  match clause.operator with
  | .isIn => hit
  | .notIn => !hit

namespace Item

mutual

def accepts (source : TermSource) : Item → Bool
  | .clause single => single.accepts source
  | .group (some .or) items => anyAccepts source items
  | .group _ items => allAccept source items

def anyAccepts (source : TermSource) : List Item → Bool
  | [] => false
  | item :: rest => item.accepts source || anyAccepts source rest

def allAccept (source : TermSource) : List Item → Bool
  | [] => true
  | item :: rest => item.accepts source && allAccept source rest

end

theorem anyAccepts_eq_any (source : TermSource) (items : List Item) :
    anyAccepts source items = items.any (·.accepts source) := by
  induction items with
  | nil => rfl
  | cons item rest ih => simp only [anyAccepts, List.any_cons, ih]

theorem allAccept_eq_all (source : TermSource) (items : List Item) :
    allAccept source items = items.all (·.accepts source) := by
  induction items with
  | nil => rfl
  | cons item rest ih => simp only [allAccept, List.all_cons, ih]

@[simp] theorem accepts_clause (source : TermSource) (single : Clause) :
    (clause single).accepts source = single.accepts source := by
  simp only [accepts]

end Item

namespace Group

def accepts (group : Group) (source : TermSource) : Bool := group.toItem.accepts source

@[simp] theorem toItem_accepts (group : Group) (source : TermSource) :
    group.toItem.accepts source = group.accepts source := rfl

theorem accepts_or (source : TermSource) (items : List Item) :
    accepts ⟨some .or, items⟩ source = items.any (·.accepts source) := by
  simp only [accepts, toItem, Item.accepts, Item.anyAccepts_eq_any]

theorem accepts_and (source : TermSource) (items : List Item) :
    accepts ⟨some .and, items⟩ source = items.all (·.accepts source) := by
  simp only [accepts, toItem, Item.accepts, Item.allAccept_eq_all]

theorem accepts_unrelated (source : TermSource) (items : List Item) :
    accepts ⟨none, items⟩ source = items.all (·.accepts source) := by
  simp only [accepts, toItem, Item.accepts, Item.allAccept_eq_all]

end Group

end TaxonomyQuery
