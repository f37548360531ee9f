import TaxonomyQuery.Proofs.ClauseFormat
import TaxonomyQuery.Proofs.FilterFormat
/-!
The order in which alternatives are tried. A clause is told from a group, a term from a list of terms,
an id from a name and a single value from several by types that exclude one another, so groups and
filters are read alike in whatever order the alternatives are tried, at every level of them.
-/

set_option autoImplicit false

namespace TaxonomyQuery

/-- An order to try the alternatives of each type in. It may differ from document to document. -/
structure TrialOrder where
  arrange {α : Type} (name : String) (document : Document) (choices : List (Decoder α)) :
    List (Decoder α)
  perm {α : Type} (name : String) (document : Document) (choices : List (Decoder α)) :
    (arrange name document choices).Perm choices

/-- The last alternative first. -/
def TrialOrder.backwards : TrialOrder where
  arrange _ _ choices := choices.reverse
  perm _ _ choices := choices.reverse_perm

/-- The first of several types that the document fits, tried in the given order. -/
def Decoder.untaggedBy {α : Type} (order : TrialOrder) (name : String)
    (choices : List (Decoder α)) : Decoder α :=
  fun origin document => untagged name (order.arrange name document choices) origin document

theorem Decoder.untaggedBy_eq {α : Type} {choices : List (Decoder α)}
    (apart : choices.Pairwise Excludes) (order : TrialOrder) (name : String) :
    untaggedBy order name choices = untagged name choices := by
  funext origin document
  rw [untaggedBy, untagged_eq_of_perm apart (order.perm name document choices)]

/-- Where two types overlap the order decides. -/
example : Decoder.untaggedBy .backwards "Choice" [fun _ _ => .ok 1, fun _ _ => .ok 2] .value .null =
    .ok 2 := rfl

namespace Record

variable {draft α : Type}

/-- The record with another field in the place of the one of that name. -/
def withField (record : Record draft α) (field : Field draft) : Record draft α :=
  { record with
    fields := record.fields.map fun other => if other.name = field.name then field else other }

theorem withField_eq_self {record : Record draft α} {field : Field draft}
    (distinct : record.names.Nodup) (member : field ∈ record.fields) :
    record.withField field = record := by
  have same (other : Field draft) (among : other ∈ record.fields) :
      (if other.name = field.name then field else other) = id other := by
    split
    next named => exact List.inj_on_of_nodup_map distinct member among named.symm
    next => rfl
  rw [withField, List.map_congr_left same, List.map_id]

end Record

/-! ### Groups -/

namespace TermValue

def decoderBy (order : TrialOrder) : Decoder TermValue :=
  Decoder.untaggedBy order "TermValue" (Decoder.either Decoder.int64 Decoder.string id name)

theorem decoderBy_eq (order : TrialOrder) : decoderBy order = decoder := by
  rw [decoderBy, Decoder.untaggedBy_eq (Decoder.either_apart Decoder.int64_excludes_string),
    decoder_eq]

end TermValue

namespace Terms

def decoderBy (order : TrialOrder) : Decoder Terms :=
  let value := TermValue.decoderBy order
  Decoder.untaggedBy order "Terms" (Decoder.either value (Decoder.list value) one many)

theorem decoderBy_eq (order : TrialOrder) : decoderBy order = decoder := by
  have apart := TermValue.decoder_excludes_list TermValue.decoder
  rw [decoderBy, TermValue.decoderBy_eq, Decoder.untaggedBy_eq (Decoder.either_apart apart),
    decoder_eq]

end Terms

namespace Clause

def decoderBy (order : TrialOrder) : Decoder Clause :=
  (record.withField <| .required "terms" (Terms.decoderBy order) fun value draft =>
    { draft with terms := some value }).decode

theorem decoderBy_eq (order : TrialOrder) : decoderBy order = decoder := by
  rw [decoderBy, Terms.decoderBy_eq, Record.withField_eq_self (by decide) (by simp [record])]
  rfl

end Clause

namespace Item

/-- Each level of groups has an order of its own. -/
def decoderWithinBy (orders : Nat → TrialOrder) : Nat → Decoder Item
  | 0 => fun _ _ => .error (.malformed .nestedTooDeep)
  | levels + 1 =>
    Decoder.untaggedBy (orders levels) "ClauseItem" <|
      Decoder.either (Clause.decoderBy (orders levels))
        (Group.record (decoderWithinBy orders levels)).decode clause Group.toItem

def decoderBy (orders : Nat → TrialOrder) : Decoder Item := fun origin document =>
  decoderWithinBy orders document.height origin document

theorem decoderWithinBy_eq (orders : Nat → TrialOrder) (levels : Nat) :
    decoderWithinBy orders levels = decoderWithin levels := by
  induction levels with
  | zero => rfl
  | succ levels ih =>
    have apart := Clause.decoder_excludes_record (decoderWithin levels)
    rw [decoderWithinBy, Clause.decoderBy_eq, ih,
      Decoder.untaggedBy_eq (Decoder.either_apart apart), decoderWithin_succ]

theorem decoderBy_eq (orders : Nat → TrialOrder) : decoderBy orders = decoder := by
  funext origin document
  rw [decoderBy, decoderWithinBy_eq, decoder]

end Item

namespace Group

def decoderBy (orders : Nat → TrialOrder) : Decoder Group := fun origin document =>
  (record (Item.decoderWithinBy orders document.height)).decode origin document

theorem decoderBy_eq (orders : Nat → TrialOrder) : decoderBy orders = decoder := by
  funext origin document
  rw [decoderBy, Item.decoderWithinBy_eq, decoder]

end Group

/-! ### Filters -/

namespace OneOrMany

variable {α : Type}

def decoderBy (order : TrialOrder) (inner : Decoder α) : Decoder (OneOrMany α) :=
  Decoder.untaggedBy order "OneOrMany" (Decoder.either inner (Decoder.list inner) one many)

theorem decoderBy_eq {inner : Decoder α} (apart : inner.Excludes (Decoder.list inner))
    (order : TrialOrder) : decoderBy order inner = decoder inner := by
  rw [decoderBy, Decoder.untaggedBy_eq (Decoder.either_apart apart), decoder_eq]

end OneOrMany

namespace OperatorSet

variable {α : Type}

def decoderBy (order : TrialOrder) (inner : Decoder α) : Decoder (OperatorSet α) :=
  let several := OneOrMany.decoderBy order inner
  let isIn := .nullable "in" several fun value set => { set with isIn := value }
  let notIn := .nullable "notIn" several fun value set => { set with notIn := value }
  (((record inner).withField isIn).withField notIn).decode

theorem decoderBy_eq {inner : Decoder α} (apart : inner.Excludes (Decoder.list inner))
    (order : TrialOrder) : decoderBy order inner = decoder inner := by
  have distinct : (record inner).names.Nodup := by
    simp [record, Record.names, Field.nullable, Field.defaulted]
  rw [decoderBy, OneOrMany.decoderBy_eq apart,
    Record.withField_eq_self distinct (by simp [record]),
    Record.withField_eq_self distinct (by simp [record])]
  rfl

end OperatorSet

namespace FieldPredicate

def decoderBy (order : TrialOrder) : Decoder FieldPredicate :=
  let name := .nullable "name" (OperatorSet.decoderBy order Decoder.string) fun value predicate =>
    { predicate with name := value }
  let id := .nullable "id" (OperatorSet.decoderBy order Decoder.int64) fun value predicate =>
    { predicate with id := value }
  ((record.withField name).withField id).decode

theorem decoderBy_eq (order : TrialOrder) : decoderBy order = decoder := by
  have distinct : record.names.Nodup := by decide
  rw [decoderBy, OperatorSet.decoderBy_eq (Decoder.string_excludes_list _),
    OperatorSet.decoderBy_eq (Decoder.int64_excludes_list _),
    Record.withField_eq_self distinct (by simp [record]),
    Record.withField_eq_self distinct (by simp [record])]
  rfl

end FieldPredicate

namespace Filter

/-- Each level of filters has an order of its own. -/
def decoderWithinBy (orders : Nat → TrialOrder) : Nat → Decoder Filter
  | 0 => fun _ _ => .error (.malformed .nestedTooDeep)
  | levels + 1 =>
    let predicate := FieldPredicate.decoderBy (orders levels)
    let tag := .nullable "tag" predicate fun value filter => { filter with tag := value }
    let category := .nullable "category" predicate fun value filter =>
      { filter with category := value }
    (((record (decoderWithinBy orders levels)).withField tag).withField category).decode

def decoderBy (orders : Nat → TrialOrder) : Decoder Filter := fun origin document =>
  decoderWithinBy orders document.height origin document

theorem decoderWithinBy_eq (orders : Nat → TrialOrder) (levels : Nat) :
    decoderWithinBy orders levels = decoderWithin levels := by
  induction levels with
  | zero => rfl
  | succ levels ih =>
    have distinct : (record (decoderWithin levels)).names.Nodup := by
      simp [record, Record.names, Field.nullable, Field.defaulted]
    rw [decoderWithinBy, FieldPredicate.decoderBy_eq, ih,
      Record.withField_eq_self distinct (by simp [record]),
      Record.withField_eq_self distinct (by simp [record])]
    rfl

theorem decoderBy_eq (orders : Nat → TrialOrder) : decoderBy orders = decoder := by
  funext origin document
  rw [decoderBy, decoderWithinBy_eq, decoder]

end Filter

/-- No document is read as two of the types that are tried for it. So all decoders are what they are
whatever the order of trial, be it another one at each level, and they read back what is written. -/
theorem Decoder.trial_order_does_not_count (order : TrialOrder) (orders : Nat → TrialOrder) :
    (Clause.decoder.Excludes Group.decoder ∧
      TermValue.decoder.Excludes (Decoder.list TermValue.decoder) ∧
      Decoder.int64.Excludes Decoder.string ∧
      Decoder.string.Excludes (Decoder.list Decoder.string) ∧
      Decoder.int64.Excludes (Decoder.list Decoder.int64)) ∧
    (TermValue.decoderBy order = TermValue.decoder ∧ Terms.decoderBy order = Terms.decoder ∧
      OneOrMany.decoderBy order Decoder.string = OneOrMany.decoder Decoder.string ∧
      OneOrMany.decoderBy order Decoder.int64 = OneOrMany.decoder Decoder.int64 ∧
      Item.decoderBy orders = Item.decoder ∧ Group.decoderBy orders = Group.decoder ∧
      Filter.decoderBy orders = Filter.decoder) ∧
    (∀ item : Item, (Item.decoderBy orders).ofJson item.toJson = .ok item) ∧
    ∀ filter : Filter, (Filter.decoderBy orders).ofJson filter.toJson = .ok filter := by
  have string := Decoder.string_excludes_list Decoder.string
  have int64 := Decoder.int64_excludes_list Decoder.int64
  refine ⟨⟨Clause.decoder_excludes_group, TermValue.decoder_excludes_list _,
    Decoder.int64_excludes_string, string, int64⟩,
    ⟨TermValue.decoderBy_eq order, Terms.decoderBy_eq order, OneOrMany.decoderBy_eq string order,
      OneOrMany.decoderBy_eq int64 order, Item.decoderBy_eq orders, Group.decoderBy_eq orders,
      Filter.decoderBy_eq orders⟩, ?_, ?_⟩
  · intro item
    rw [Item.decoderBy_eq]
    exact item.restores.ofJson Item.uniform_decoder
  · intro filter
    rw [Filter.decoderBy_eq]
    exact filter.restores.ofJson Filter.uniform_decoder

end TaxonomyQuery
