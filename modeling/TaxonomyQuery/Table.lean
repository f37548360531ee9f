/-!
Tables: values under distinct keys, listed in ascending order of the keys.
-/

set_option autoImplicit false

namespace TaxonomyQuery

namespace Table

variable {κ α : Type} [LT κ] [DecidableLT κ] [DecidableEq κ]

/-- Puts a value under its key among ascending keys, in place of the one that is there. -/
def insertEntry (key : κ) (value : α) : List (κ × α) → List (κ × α)
  | [] => [(key, value)]
  | (first, other) :: rest =>
    if key < first then (key, value) :: (first, other) :: rest
    else if key = first then (key, value) :: rest
    else (first, other) :: insertEntry key value rest

def Ascending (entries : List (κ × α)) : Prop :=
  entries.Pairwise fun first second => first.1 < second.1

theorem mem_insertEntry {key : κ} {value : α} {entry : κ × α} {entries : List (κ × α)} :
    entry ∈ insertEntry key value entries → entry = (key, value) ∨ entry ∈ entries := by
  induction entries with
  | nil => simp [insertEntry]
  | cons head rest ih =>
    rw [insertEntry]
    split
    · simp
    · split
      · intro member
        rcases List.mem_cons.mp member with same | old
        · exact .inl same
        · exact .inr (List.mem_cons_of_mem _ old)
      · intro member
        rcases List.mem_cons.mp member with same | old
        · exact .inr (same ▸ List.mem_cons_self)
        · exact (ih old).imp id (List.mem_cons_of_mem _)

theorem ascending_insertEntry [LE κ] [Std.IsLinearOrder κ] [Std.LawfulOrderLT κ] (key : κ)
    (value : α) {entries : List (κ × α)} (ascending : Ascending entries) :
    Ascending (insertEntry key value entries) := by
  induction entries with
  | nil => simp [insertEntry, Ascending]
  | cons head rest ih =>
    have tail : ∀ entry ∈ rest, head.1 < entry.1 := fun _ member =>
      List.rel_of_pairwise_cons ascending member
    rw [insertEntry]
    split
    · rename_i below
      refine List.Pairwise.cons (fun entry member => ?_) ascending
      rcases List.mem_cons.mp member with same | old
      · exact same ▸ below
      · exact Std.lt_trans below (tail _ old)
    · split
      · rename_i _ same
        exact List.Pairwise.cons (fun entry member => same ▸ tail _ member) ascending.of_cons
      · rename_i notBelow different
        refine List.Pairwise.cons (fun entry member => ?_) (ih ascending.of_cons)
        rcases mem_insertEntry member with same | old
        · exact same ▸ Std.lt_of_le_of_ne (Std.not_lt.mp notBelow) (Ne.symm different)
        · exact tail _ old

theorem find?_insertEntry_self (key : κ) (value : α) (entries : List (κ × α)) :
    (insertEntry key value entries).find? (·.1 = key) = some (key, value) := by
  induction entries with
  | nil => simp [insertEntry]
  | cons head rest ih =>
    rw [insertEntry]
    split
    · simp
    · split
      · simp
      · rename_i different
        simp [Ne.symm different, ih]

theorem find?_insertEntry_of_ne {key other : κ} (different : other ≠ key) (value : α)
    (entries : List (κ × α)) :
    (insertEntry key value entries).find? (·.1 = other) = entries.find? (·.1 = other) := by
  induction entries with
  | nil => simp [insertEntry, Ne.symm different]
  | cons head rest ih =>
    rw [insertEntry]
    split
    · simp [Ne.symm different]
    · split
      · rename_i same
        simp [← same, Ne.symm different]
      · simp only [List.find?_cons, ih]

theorem insertEntry_perm {key : κ} (value : α) {entries : List (κ × α)}
    (absent : key ∉ entries.map (·.1)) :
    (insertEntry key value entries).Perm ((key, value) :: entries) := by
  induction entries with
  | nil => rfl
  | cons head rest ih =>
    obtain ⟨different, absent⟩ := not_or.mp (mt List.mem_cons.mpr absent)
    rw [insertEntry, if_neg different]
    split
    · rfl
    · exact ((ih absent).cons head).trans (.swap _ _ _)

theorem keys_insertEntry_of_mem [LE κ] [Std.IsLinearOrder κ] [Std.LawfulOrderLT κ] {key : κ}
    (value : α) {entries : List (κ × α)} (ascending : Ascending entries)
    (present : key ∈ entries.map (·.1)) :
    (insertEntry key value entries).map (·.1) = entries.map (·.1) := by
  induction entries with
  | nil => cases present
  | cons head rest ih =>
    rw [insertEntry]
    rcases List.mem_cons.mp present with rfl | among
    · rw [if_neg Std.lt_irrefl, if_pos rfl]
      rfl
    · have above : head.1 < key :=
        List.rel_of_pairwise_cons (List.pairwise_map.mpr ascending) among
      rw [if_neg (Std.not_gt_of_lt above), if_neg (Std.ne_of_lt above).symm]
      exact congrArg (head.1 :: ·) (ih ascending.of_cons among)

theorem insertEntry_of_above [LE κ] [Std.IsLinearOrder κ] [Std.LawfulOrderLT κ] {key : κ} (value : α)
    {entries : List (κ × α)} (above : ∀ entry ∈ entries, entry.1 < key) :
    insertEntry key value entries = entries ++ [(key, value)] := by
  induction entries with
  | nil => rfl
  | cons head rest ih =>
    obtain ⟨below, others⟩ := List.forall_mem_cons.mp above
    rw [insertEntry, if_neg (Std.not_gt_of_lt below), if_neg (Std.ne_of_lt below).symm]
    exact congrArg (head :: ·) (ih others)

omit [DecidableLT κ] in
theorem find?_eq_of_mem [LE κ] [Std.IsLinearOrder κ] [Std.LawfulOrderLT κ]
    {entries : List (κ × α)} (ascending : Ascending entries) {entry : κ × α}
    (member : entry ∈ entries) : entries.find? (·.1 = entry.1) = some entry := by
  induction entries with
  | nil => cases member
  | cons head rest ih =>
    rcases List.mem_cons.mp member with rfl | among
    · simp
    · have below : head.1 < entry.1 := List.rel_of_pairwise_cons ascending among
      rw [List.find?_cons_of_neg (by simpa using Std.ne_of_lt below)]
      exact ih ascending.of_cons among

end Table

structure Table (κ α : Type) [LT κ] where
  entries : List (κ × α)
  ascending : Table.Ascending entries

namespace Table

variable {κ α : Type} [LT κ]

def empty : Table κ α := ⟨[], List.Pairwise.nil⟩

def keys (table : Table κ α) : List κ := table.entries.map (·.1)

def values (table : Table κ α) : List α := table.entries.map (·.2)

@[simp] theorem entries_empty : (empty : Table κ α).entries = [] := rfl

theorem eq_of_entries_eq {first second : Table κ α} (same : first.entries = second.entries) :
    first = second := by
  cases first
  cases second
  cases same
  rfl

theorem eq_of_entries_perm [LE κ] [Std.IsLinearOrder κ] [Std.LawfulOrderLT κ]
    {first second : Table κ α} (same : first.entries.Perm second.entries) : first = second := by
  apply eq_of_entries_eq
  apply List.Perm.eq_of_pairwise _ first.ascending second.ascending same
  intro one other _ _ below above
  exact absurd above (Std.not_gt_of_lt below)

theorem nodup_entries [LE κ] [Std.IsLinearOrder κ] [Std.LawfulOrderLT κ] (table : Table κ α) :
    table.entries.Nodup := by
  refine table.ascending.imp fun below equal => ?_
  exact Std.lt_irrefl (equal ▸ below)

variable [DecidableEq κ]

def get? (table : Table κ α) (key : κ) : Option α :=
  (table.entries.find? (·.1 = key)).map (·.2)

def contains (table : Table κ α) (key : κ) : Bool := (table.get? key).isSome

@[simp] theorem get?_empty (key : κ) : (empty : Table κ α).get? key = none := rfl

theorem mem_entries_iff [LE κ] [Std.IsLinearOrder κ] [Std.LawfulOrderLT κ] {table : Table κ α}
    {key : κ} {value : α} : (key, value) ∈ table.entries ↔ table.get? key = some value := by
  constructor
  · intro member
    rw [get?, find?_eq_of_mem table.ascending member, Option.map_some]
  · intro found
    obtain ⟨entry, first, rfl⟩ := Option.map_eq_some_iff.mp found
    have same : entry.1 = key := by simpa using List.find?_some first
    exact same ▸ List.mem_of_find?_eq_some first

theorem mem_values_iff [LE κ] [Std.IsLinearOrder κ] [Std.LawfulOrderLT κ] {table : Table κ α}
    {value : α} : value ∈ table.values ↔ ∃ key, table.get? key = some value := by
  simp only [values, List.mem_map, ← mem_entries_iff, Prod.exists, exists_eq_right]

theorem contains_iff {table : Table κ α} {key : κ} :
    table.contains key ↔ ∃ value, table.get? key = some value :=
  Option.isSome_iff_exists

theorem contains_eq_false_iff {table : Table κ α} {key : κ} :
    table.contains key = false ↔ table.get? key = none := by
  rw [contains, Option.isSome_eq_false_iff, Option.isNone_iff_eq_none]

theorem mem_keys_iff [LE κ] [Std.IsLinearOrder κ] [Std.LawfulOrderLT κ] {table : Table κ α}
    {key : κ} : key ∈ table.keys ↔ ∃ value, table.get? key = some value := by
  simp only [keys, List.mem_map, ← mem_entries_iff, Prod.exists, exists_and_right, exists_eq_right]

/-- A table is what is found in it. -/
theorem ext_get? [LE κ] [Std.IsLinearOrder κ] [Std.LawfulOrderLT κ] {first second : Table κ α}
    (same : ∀ key, first.get? key = second.get? key) : first = second := by
  apply eq_of_entries_perm
  refine (List.perm_ext_iff_of_nodup first.nodup_entries second.nodup_entries).mpr fun entry => ?_
  rw [mem_entries_iff, mem_entries_iff, same]

variable [DecidableLT κ]

def insert [LE κ] [Std.IsLinearOrder κ] [Std.LawfulOrderLT κ] (table : Table κ α) (key : κ)
    (value : α) : Table κ α :=
  ⟨insertEntry key value table.entries, ascending_insertEntry key value table.ascending⟩

section Insert

variable [LE κ] [Std.IsLinearOrder κ] [Std.LawfulOrderLT κ]

@[simp] theorem get?_insert_self (table : Table κ α) (key : κ) (value : α) :
    (table.insert key value).get? key = some value := by
  simp only [get?, insert, find?_insertEntry_self, Option.map_some]

theorem get?_insert_of_ne (table : Table κ α) {key other : κ} (different : other ≠ key)
    (value : α) : (table.insert key value).get? other = table.get? other := by
  simp only [get?, insert, find?_insertEntry_of_ne different]

theorem get?_insert (table : Table κ α) (key other : κ) (value : α) :
    (table.insert key value).get? other = if other = key then some value else table.get? other := by
  split
  · rename_i same
    rw [same, get?_insert_self]
  · rename_i different
    exact get?_insert_of_ne table different value

/-- What is found after an insertion is what was put in or what was there. -/
theorem get?_insert_eq_some {table : Table κ α} {key other : κ} {value found : α}
    (present : (table.insert key value).get? other = some found) :
    other = key ∧ found = value ∨ table.get? other = some found := by
  rw [get?_insert] at present
  split at present
  · rename_i same
    exact .inl ⟨same, (Option.some.inj present).symm⟩
  · exact .inr present

theorem insert_of_get? {table : Table κ α} {key : κ} {value : α}
    (found : table.get? key = some value) : table.insert key value = table := by
  apply ext_get?
  intro other
  rw [get?_insert]
  split
  · rename_i same
    rw [same, found]
  · rfl

theorem insert_insert (table : Table κ α) (key : κ) (first second : α) :
    (table.insert key first).insert key second = table.insert key second := by
  apply ext_get?
  intro other
  simp only [get?_insert]
  split <;> rfl

/-- Under a new key there is what was put in, and under the others what was there. -/
theorem get?_insert_eq_some_iff {table : Table κ α} {key other : κ} {value found : α}
    (absent : table.get? key = none) :
    (table.insert key value).get? other = some found ↔
      other = key ∧ found = value ∨ table.get? other = some found := by
  rw [get?_insert]
  split
  · rename_i same
    simp [same, absent, eq_comm]
  · rename_i different
    simp [different]

/-- A key that is new leaves what is found under the others as it was. -/
theorem get?_insert_of_not_mem {table : Table κ α} {key other : κ} {found : α}
    (absent : key ∉ table.keys) (value : α) (present : table.get? other = some found) :
    (table.insert key value).get? other = some found := by
  have different : other ≠ key := by
    rintro rfl
    exact absent (mem_keys_iff.mpr ⟨found, present⟩)
  exact (get?_insert_of_ne table different value).trans present

theorem keys_insert_perm {table : Table κ α} {key : κ} (absent : key ∉ table.keys) (value : α) :
    (table.insert key value).keys.Perm (key :: table.keys) :=
  (insertEntry_perm value absent).map Prod.fst

theorem keys_insert_of_mem {table : Table κ α} {key : κ} (present : key ∈ table.keys) (value : α) :
    (table.insert key value).keys = table.keys :=
  keys_insertEntry_of_mem value table.ascending present

/-- A key above all others comes last. -/
theorem values_insert_of_above {table : Table κ α} {key : κ}
    (above : ∀ other ∈ table.keys, other < key) (value : α) :
    (table.insert key value).values = table.values ++ [value] := by
  have last : (table.insert key value).entries = table.entries ++ [(key, value)] :=
    insertEntry_of_above value (List.forall_mem_map.mp above)
  rw [values, last, List.map_append]
  rfl

end Insert

/-- The table of a list of entries, the last one of each key. -/
def ofList [LE κ] [Std.IsLinearOrder κ] [Std.LawfulOrderLT κ] (entries : List (κ × α)) :
    Table κ α :=
  entries.foldl (fun table entry => table.insert entry.1 entry.2) empty

section OfList

variable [LE κ] [Std.IsLinearOrder κ] [Std.LawfulOrderLT κ]

theorem entries_foldl_insert_perm (table : Table κ α) (entries : List (κ × α))
    (distinct : (entries.map (·.1) ++ table.keys).Nodup) :
    (entries.foldl (fun table entry => table.insert entry.1 entry.2) table).entries.Perm
      (entries ++ table.entries) := by
  induction entries generalizing table with
  | nil => rfl
  | cons entry rest ih =>
    obtain ⟨fresh, others⟩ := List.nodup_cons.mp distinct
    have absent : entry.1 ∉ table.keys := fun inside => fresh (List.mem_append_right _ inside)
    have keys : (rest.map (·.1) ++ (table.insert entry.1 entry.2).keys).Perm
        (entry.1 :: (rest.map (·.1) ++ table.keys)) :=
      ((keys_insert_perm absent entry.2).append_left _).trans List.perm_middle
    have added : (table.insert entry.1 entry.2).entries.Perm (entry :: table.entries) :=
      insertEntry_perm entry.2 absent
    exact (ih _ (keys.nodup_iff.mpr distinct)).trans
      ((added.append_left rest).trans List.perm_middle)

/-- Entries with distinct keys all stay. -/
theorem entries_ofList_perm {entries : List (κ × α)} (distinct : (entries.map (·.1)).Nodup) :
    (ofList entries).entries.Perm entries := by
  have kept := entries_foldl_insert_perm empty entries (by simpa [keys] using distinct)
  rwa [entries_empty, List.append_nil] at kept

/-- Under a key there is what was put in last of it. -/
theorem get?_ofList (entries : List (κ × α)) (key : κ) :
    (ofList entries).get? key = (entries.reverse.find? (·.1 = key)).map (·.2) := by
  have general : ∀ table : Table κ α,
      (entries.foldl (fun table entry => table.insert entry.1 entry.2) table).get? key =
        ((entries.reverse.find? (·.1 = key)).map (·.2)).or (table.get? key) := by
    induction entries with
    | nil => exact fun table => rfl
    | cons entry rest ih =>
      intro table
      rw [List.foldl_cons, ih, List.reverse_cons, List.find?_append, get?_insert]
      cases rest.reverse.find? (·.1 = key) with
      | some later => rfl
      | none =>
        by_cases same : entry.1 = key
        · simp [same]
        · simp [same, Ne.symm same]
  rw [ofList, general, get?_empty, Option.or_none]

/-- The order in which entries with distinct keys are put in makes no difference. -/
theorem ofList_eq_of_perm {first second : List (κ × α)} (same : first.Perm second)
    (distinct : (first.map (·.1)).Nodup) : ofList first = ofList second := by
  have distinctSecond : (second.map (·.1)).Nodup := (same.map (·.1)).nodup_iff.mp distinct
  apply eq_of_entries_perm
  exact (entries_ofList_perm distinct).trans (same.trans (entries_ofList_perm distinctSecond).symm)

end OfList

end Table

end TaxonomyQuery
