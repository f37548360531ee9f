import TaxonomyQuery.Catalog.Snapshot
/-!
What can become of a catalog: the changes it goes through one after another.
-/

set_option autoImplicit false

namespace TaxonomyQuery

inductive Change where
  | addTerm (taxonomy : Taxonomy) (name : String)
  | addItem (postType title : String)
  | assign (item : Int64) (terms : List Int64)
deriving DecidableEq, Repr

namespace Catalog

/-- The catalog after a change, whether it fails or not. -/
def change (catalog : Catalog) : Change → Catalog
  | .addTerm taxonomy name => (catalog.addTerm taxonomy name).2
  | .addItem postType title => (catalog.addItem postType title).2
  | .assign item terms => (catalog.tryAssign item terms).2

def changes (catalog : Catalog) (list : List Change) : Catalog := list.foldl change catalog

/-- Another id is left after the last one. -/
def HasRoom (catalog : Catalog) : Prop := catalog.lastId < Int64.maxValue

/-- A change that takes an id finds one left. -/
def HasRoomFor (catalog : Catalog) : Change → Prop
  | .addTerm taxonomy name => catalog.termByName? taxonomy name = none → catalog.HasRoom
  | .addItem _ _ => catalog.HasRoom
  | .assign _ _ => True

/-- Every change of a run that takes an id finds one left. -/
def HasRoomForAll : Catalog → List Change → Prop
  | _, [] => True
  | catalog, next :: rest => catalog.HasRoomFor next ∧ (catalog.change next).HasRoomForAll rest

instance (catalog : Catalog) : Decidable catalog.HasRoom :=
  inferInstanceAs (Decidable (catalog.lastId < Int64.maxValue))

instance (catalog : Catalog) : DecidablePred catalog.HasRoomFor
  | .addTerm taxonomy name =>
    inferInstanceAs (Decidable (catalog.termByName? taxonomy name = none → catalog.HasRoom))
  | .addItem _ _ => inferInstanceAs (Decidable catalog.HasRoom)
  | .assign _ _ => .isTrue trivial

instance decidableHasRoomForAll : (catalog : Catalog) → DecidablePred catalog.HasRoomForAll
  | _, [] => .isTrue trivial
  | catalog, next :: rest =>
    have := decidableHasRoomForAll (catalog.change next) rest
    inferInstanceAs (Decidable (catalog.HasRoomFor next ∧ (catalog.change next).HasRoomForAll rest))

/-- The catalogs that begin empty or with a snapshot and go through changes. -/
inductive Reachable : Catalog → Prop where
  | empty : Reachable empty
  | snapshot {snapshot : Snapshot} {catalog : Catalog}
      (loaded : ofSnapshot snapshot = .ok catalog) : Reachable catalog
  | change {catalog : Catalog} (before : Reachable catalog) (next : Change) :
      Reachable (catalog.change next)

/-- The catalogs that came about without running out of ids. -/
inductive ReachableWithRoom : Catalog → Prop where
  | empty : ReachableWithRoom empty
  | snapshot {snapshot : Snapshot} {catalog : Catalog}
      (loaded : ofSnapshot snapshot = .ok catalog) : ReachableWithRoom catalog
  | change {catalog : Catalog} (before : ReachableWithRoom catalog) {next : Change}
      (room : catalog.HasRoomFor next) : ReachableWithRoom (catalog.change next)

theorem ReachableWithRoom.reachable {catalog : Catalog} (reached : catalog.ReachableWithRoom) :
    catalog.Reachable := by
  induction reached with
  | empty => exact .empty
  | snapshot loaded => exact .snapshot loaded
  | change _ _ ih => exact .change ih _

@[simp] theorem changes_nil (catalog : Catalog) : catalog.changes [] = catalog := rfl

@[simp] theorem changes_cons (catalog : Catalog) (first : Change) (rest : List Change) :
    catalog.changes (first :: rest) = (catalog.change first).changes rest := rfl

theorem changes_append (catalog : Catalog) (first second : List Change) :
    catalog.changes (first ++ second) = (catalog.changes first).changes second :=
  List.foldl_append

theorem Reachable.changes {catalog : Catalog} (reachable : catalog.Reachable)
    (list : List Change) : (catalog.changes list).Reachable := by
  induction list generalizing catalog with
  | nil => exact reachable
  | cons first rest ih => exact ih (reachable.change first)

theorem hasRoomForAll_append {catalog : Catalog} {first second : List Change} :
    catalog.HasRoomForAll (first ++ second) ↔
      catalog.HasRoomForAll first ∧ (catalog.changes first).HasRoomForAll second := by
  induction first generalizing catalog with
  | nil => exact (and_iff_right trivial).symm
  | cons next rest ih =>
    rw [List.cons_append, HasRoomForAll, HasRoomForAll, ih, and_assoc, changes_cons]

theorem ReachableWithRoom.changes {catalog : Catalog} (reached : catalog.ReachableWithRoom)
    {list : List Change} (room : catalog.HasRoomForAll list) :
    (catalog.changes list).ReachableWithRoom := by
  induction list generalizing catalog with
  | nil => exact reached
  | cons next rest ih => exact ih (reached.change room.1) room.2

end Catalog

/-- No two terms share an id, no two items do, and items refer to terms of the snapshot only. -/
def Snapshot.Consistent (snapshot : Snapshot) : Prop :=
  (snapshot.terms.map (·.id)).Nodup ∧ (snapshot.items.map (·.id)).Nodup ∧
    ∀ item ∈ snapshot.items, ∀ id ∈ item.terms, id ∈ snapshot.terms.map (·.id)

end TaxonomyQuery
