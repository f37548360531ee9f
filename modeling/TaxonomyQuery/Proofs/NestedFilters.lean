import TaxonomyQuery.Proofs.Assembly
import TaxonomyQuery.Proofs.PrintedFilters
import TaxonomyQuery.Proofs.ResolveCommand
/-!
Filters of one relation inside the other. Two bounds meet on their texts: that of the levels that a
filter may have, and that of the arrays and objects that a text may have open, of which every level
opens two.
-/

set_option autoImplicit false

namespace TaxonomyQuery.Filter

/-- A level that is nothing but a relation to one filter. -/
def enclose (relation : Relation) (child : Filter) : Filter :=
  match relation with
  | .and => { conjuncts := some [child] }
  | .or => { disjuncts := some [child] }

/-- The condition that a term has the name. -/
def named (taxonomy : Taxonomy) (name : String) : Filter :=
  let predicate : FieldPredicate := { name := some { equal := some name } }
  match taxonomy with
  | .tag => { tag := some predicate }
  | .category => { category := some predicate }

/-- Relations inside one another, the outermost first, around a condition on a name. -/
def nested (relations : List Relation) (taxonomy : Taxonomy) (name : String) : Filter :=
  relations.foldr enclose (named taxonomy name)

variable {relation : Relation} {child : Filter} {relations : List Relation} {taxonomy : Taxonomy}
  {name : String}

@[simp] theorem nested_nil : nested [] taxonomy name = named taxonomy name := rfl

@[simp] theorem nested_cons :
    nested (relation :: relations) taxonomy name =
      enclose relation (nested relations taxonomy name) :=
  rfl

/-! ### The bound of levels -/

theorem ownFault?_enclose (limit depth : Nat) :
    (enclose relation child).ownFault? limit depth =
      if limit < depth then some (.depthExceeded limit) else none := by
  cases relation <;> rfl

theorem children_enclose : (enclose relation child).children = [child] := by
  cases relation <;> rfl

/-- Nothing but their depth is wrong with such filters. -/
theorem firstFault?_nested (relations : List Relation) (limit depth : Nat) :
    (nested relations taxonomy name).firstFault? limit depth =
      if limit < depth + relations.length then some (.depthExceeded limit) else none := by
  induction relations generalizing depth with
  | nil =>
    cases taxonomy
    all_goals
      rw [firstFault?_eq]
      simp [named, ownFault?, children, hasConflict, hasEmptyRelation]
  | cons relation relations ih =>
    rw [nested_cons, firstFault?_eq, ownFault?_enclose, children_enclose, List.findSome?_singleton,
      ih, List.length_cons]
    by_cases deep : limit < depth
    · simp [deep, show limit < depth + (relations.length + 1) by omega]
    · simp [deep, Nat.add_assoc, Nat.add_comm 1]

theorem height_nested (relations : List Relation) :
    (nested relations taxonomy name).height = relations.length := by
  induction relations with
  | nil => cases taxonomy <;> rfl
  | cons relation relations ih =>
    cases relation
    all_goals
      simp [enclose, height, heightBelow, heightAll, ih]

theorem compile_nested (lookup : TermLookup) {relations : List Relation}
    (few : relations.length ≤ Text.greatestNatural) (limit : Nat) :
    (nested relations taxonomy name).compile lookup limit =
      if limit < relations.length then .error (.depthExceeded limit)
      else .ok ((nested relations taxonomy name).assemble lookup) := by
  have counts : (nested relations taxonomy name).CountsUp limit 0 :=
    countsUp_of_height (by rwa [height_nested, Nat.zero_add])
  rw [compile, compileAt_eq, counts.refusal?_eq, firstFault?_nested, Nat.zero_add]
  split <;> rfl

/-! ### The bound of a text -/

/-- The name under which a relation is written in a filter. -/
def relationName : Relation → String
  | .and => "and"
  | .or => "or"

theorem toJson_enclose (relation : Relation) (child : Filter) :
    (enclose relation child).toJson = .object [(relationName relation, .array [child.toJson])] := by
  cases relation <;> rfl

theorem nesting_toJson_enclose :
    (enclose relation child).toJson.nesting = child.toJson.nesting + 2 := by
  rw [toJson_enclose]
  simp [Json.nesting, Json.nestingMembers, Json.nestingItems]

theorem nesting_toJson_nested (relations : List Relation) :
    (nested relations taxonomy name).toJson.nesting = 2 * relations.length + 3 := by
  induction relations with
  | nil => cases taxonomy <;> rfl
  | cons relation relations ih =>
    rw [nested_cons, nesting_toJson_enclose, ih, List.length_cons]
    omega

/-- A text with too little room is refused for that, at whatever level it runs out. -/
theorem decoderWithin_nested_of_lt {room : Nat} (relations : List Relation) (levels : Nat)
    (deep : room < 2 * relations.length + 3) :
    decoderWithin levels (.text room) (.plain (nested relations taxonomy name).toJson) =
      .error (.malformed .nestedTooDeep) := by
  induction relations generalizing levels room with
  | nil =>
    cases levels with
    | zero => rfl
    | succ levels =>
      obtain rfl | rfl | rfl : room = 0 ∨ room = 1 ∨ room = 2 := by simp at deep; omega
      all_goals
        cases taxonomy <;> rfl
  | cons relation relations ih =>
    cases levels with
    | zero => rfl
    | succ levels =>
      rw [nested_cons, toJson_enclose]
      rcases room with _ | _ | room
      · cases relation <;> rfl
      · cases relation <;> rfl
      · have inner := ih levels (show room < 2 * relations.length + 3 by
          rw [List.length_cons] at deep; omega)
        -- The object and the array take up two, and what is left is too little for the child.
        cases relation
        all_goals
          simp only [relationName, Document.plain_object, Document.plain_array, List.map_cons,
            List.map_nil, Document.plainMember, decoderWithin]
          simp [Record.decode, Origin.enter, Record.readMembers, record, Field.nullable,
            Field.defaulted, Decoder.nullable, Decoder.list, Decoder.items, bind, Except.bind,
            Except.map, inner]

theorem ofText_nested {text : List Char} (relations : List Relation)
    (holds : Json.ofText? text = some (nested relations taxonomy name).toJson) :
    ofText text =
      if Decoder.greatestNesting < 2 * relations.length + 3 then
        .error (.invalidInput (.malformed .nestedTooDeep))
      else .ok (nested relations taxonomy name) := by
  split
  · rename_i deep
    obtain ⟨document, _⟩ := Json.ofText?_eq_some_iff.mp holds
    have refused : decoder (.text Decoder.greatestNesting) (readDocument text).document =
        .error (.malformed .nestedTooDeep) := by
      rw [document]
      exact decoderWithin_nested_of_lt relations _ deep
    simp only [ofText, Decoder.ofText, refused, bind, Except.bind, Except.mapError]
  · rename_i fits
    apply ofText_of_ofText? holds
    rw [nesting_toJson_nested]
    exact Nat.le_of_not_lt fits

/-! ### Both bounds -/

open CommandLine

/-- The bound of the text is asked first: it leaves room for 62 levels, whatever the limit. -/
theorem compileText_nested {text : String} (lookup : TermLookup) (limit : Nat)
    (relations : List Relation)
    (holds : Json.ofText? text.toList = some (nested relations taxonomy name).toJson) :
    compileText lookup limit text =
      if 62 < relations.length then .error (.invalidInput (.malformed .nestedTooDeep))
      else if limit < relations.length then .error (.depthExceeded limit)
      else .ok ((nested relations taxonomy name).assemble lookup) := by
  have room : Decoder.greatestNesting < 2 * relations.length + 3 ↔ 62 < relations.length := by
    rw [Decoder.greatestNesting]
    omega
  rw [compileText, ofText_nested relations holds, if_congr room rfl rfl]
  split
  · rfl
  · rename_i fits
    exact compile_nested lookup (Nat.le_trans (Nat.le_of_not_lt fits) (by decide)) limit

/-- What comes of such a text that a command has compiled. -/
theorem ofCompiled_nested {text : String} (lookup : TermLookup) (limit : Nat)
    (relations : List Relation)
    (holds : Json.ofText? text.toList = some (nested relations taxonomy name).toJson)
    (place : String) (answer : Group → Json) :
    Result.ofCompiled place answer (compileText lookup limit text) =
      if 62 < relations.length then .refused (.invalidInput (.malformed .nestedTooDeep)) place
      else if limit < relations.length then .refused (.depthExceeded limit) place
      else .printed (answer ((nested relations taxonomy name).assemble lookup)) := by
  rw [compileText_nested lookup limit relations holds]
  split
  · rfl
  · split <;> rfl

/-- What is printed of a refusal tells its message. -/
theorem messageAt_eq_of_outcome_eq {error other : FilterError} {place : String}
    (same : (Result.refused error place).outcome = (Result.refused other place).outcome) :
    error.messageAt place = other.messageAt place := by
  have written := document_injective (whole_toJson_clientError _) (whole_toJson_clientError _)
    (congrArg Outcome.stderr same)
  simpa [ClientError.toJson, FilterError.toClientError] using written

theorem messageAt_invalidInput_ne (error : DecodeError) (limit : Nat) (place : String) :
    (FilterError.invalidInput error).messageAt place ≠
      (FilterError.depthExceeded limit).messageAt place := by
  have front : ∀ {first second : String} {c : Char}, first.toList.head? = some c →
      (first ++ second).toList.head? = some c := by
    intro first second c found
    rw [String.toList_append, List.head?_append, found]
    rfl
  intro same
  have one : ((FilterError.invalidInput error).messageAt place).toList.head? = some 'i' :=
    front (front (by decide))
  have other : ((FilterError.depthExceeded limit).messageAt place).toList.head? = some 'T' :=
    front (front (front (by decide)))
  rw [same, other] at one
  exact absurd one (by decide)

theorem message_depthExceeded_injective {limit other : Nat}
    (same : (FilterError.depthExceeded limit).message =
      (FilterError.depthExceeded other).message) : limit = other := by
  have front := (String.append_left_inj ") depth to proceed").mp same
  have digits := String.ofList_injective ((String.append_right_inj _).mp front)
  have read (value : Nat) : Nat.ofDigitChars 10 (Text.decimalNat value) 0 = value :=
    Nat.ofDigitChars_toDigits (by decide) (by decide)
  rw [← read limit, digits, read]

/-- Two limits have different outcomes if one of them is exceeded and the text can be read. -/
theorem outcome_ofCompiled_nested_ne {text : String} (lookup : TermLookup) {limit other : Nat}
    {relations : List Relation}
    (holds : Json.ofText? text.toList = some (nested relations taxonomy name).toJson)
    (readable : relations.length ≤ 62) (exceeded : limit < relations.length)
    (distinct : limit ≠ other) (place : String) (answer : Group → Json) :
    (Result.ofCompiled place answer (compileText lookup limit text)).outcome ≠
      (Result.ofCompiled place answer (compileText lookup other text)).outcome := by
  rw [ofCompiled_nested lookup limit relations holds, ofCompiled_nested lookup other relations holds,
    if_neg (Nat.not_lt.mpr readable), if_neg (Nat.not_lt.mpr readable), if_pos exceeded]
  intro same
  split at same
  · exact distinct (message_depthExceeded_injective (messageAt_eq_of_outcome_eq same))
  · cases congrArg Outcome.code same

/-- What the command makes of a text with relations inside one another. With the limit's number of
them it is accepted, and with one more it is refused for the limit, exactly if the limit is less
than 62: at 62 the text with one more is refused as nested too deep, and past it either text is. -/
theorem run_nested_text {surroundings : Surroundings} {settings : Settings} {file : Option String}
    {text : String} (maxDepth : Option Nat) (relations : List Relation)
    (configured : surroundings.settings = .ok settings)
    (found : surroundings.filterText file = .ok text)
    (holds : Json.ofText? text.toList = some (nested relations taxonomy name).toJson) :
    let limit := maxDepth.getD settings.depthLimit
    let place := surroundings.positions.filter text
    let outcome := run (some (.invoke ⟨maxDepth, .resolve file⟩)) surroundings
    outcome =
        (if 62 < relations.length then
          Result.refused (.invalidInput (.malformed .nestedTooDeep)) place
        else if limit < relations.length then Result.refused (.depthExceeded limit) place
        else Result.printed ((nested relations taxonomy name).assemble .none).toJson).outcome ∧
      (relations.length = limit → (outcome.code = 0 ↔ limit ≤ 62)) ∧
      (relations.length = limit + 1 →
        (outcome = (Result.refused (.depthExceeded limit) place).outcome ↔ limit ≤ 61)) := by
  intro limit place outcome
  have ended : outcome =
      (if 62 < relations.length then
        Result.refused (.invalidInput (.malformed .nestedTooDeep)) place
      else if limit < relations.length then Result.refused (.depthExceeded limit) place
      else Result.printed ((nested relations taxonomy name).assemble .none).toJson).outcome := by
    rw [show outcome = _ from run_resolve maxDepth configured found,
      ofCompiled_nested .none limit relations holds]
  refine ⟨ended, fun level => ?_, fun more => ?_⟩
  · rw [ended]
    split
    · simp [Result.outcome]
      omega
    · rw [if_neg (by omega)]
      simp [Result.outcome]
      omega
  · rw [ended]
    split
    · rename_i deep
      constructor
      · intro same
        exact absurd (messageAt_eq_of_outcome_eq same) (messageAt_invalidInput_ne _ limit place)
      · intro small
        omega
    · rw [if_pos (by omega)]
      exact ⟨fun _ => by omega, fun _ => rfl⟩

/-- Two levels under a limit of two that is set, and three. -/
theorem run_nested_text_of_two_levels :
    let text : List Relation → String := fun relations =>
      String.ofList (nested relations .category "x").toJson.compact
    let surroundings : List Relation → Surroundings := fun relations =>
      { environment := [(Settings.toggleName, "on"), (Settings.limitName, "2")]
        file := fun _ => .error .notFound
        input := text relations }
    (surroundings [.or, .and]).settings = .ok ⟨true, 2⟩ ∧
      Json.ofText? (text [.or, .and]).toList = some (nested [.or, .and] .category "x").toJson ∧
      (run (some (.invoke ⟨none, .resolve none⟩)) (surroundings [.or, .and])).code = 0 ∧
      (surroundings [.or, .and, .or]).settings = .ok ⟨true, 2⟩ ∧
      Json.ofText? (text [.or, .and, .or]).toList =
        some (nested [.or, .and, .or] .category "x").toJson ∧
      run (some (.invoke ⟨none, .resolve none⟩)) (surroundings [.or, .and, .or]) =
        (Result.refused (.depthExceeded 2) "").outcome := by
  intro text surroundings
  have configured : ∀ relations, (surroundings relations).settings = .ok ⟨true, 2⟩ := fun _ => rfl
  have holds : ∀ relations,
      Json.ofText? (text relations).toList = some (nested relations .category "x").toJson := by
    intro relations
    rw [String.toList_ofList]
    exact (nested relations .category "x").whole_toJson.writtenAs_compact.ofText?
  have found : ∀ relations, (surroundings relations).filterText none = .ok (text relations) :=
    fun _ => rfl
  obtain ⟨_, accepted, _⟩ :=
    run_nested_text none [.or, .and] (configured [.or, .and]) (found _) (holds _)
  obtain ⟨_, _, refused⟩ :=
    run_nested_text none [.or, .and, .or] (configured [.or, .and, .or]) (found _) (holds _)
  exact ⟨configured _, holds _, (accepted rfl).mpr (by decide), configured _, holds _,
    (refused rfl).mpr (by decide)⟩

/-- A limit of 62 is not what 63 levels are refused for, and one of 63 does not let them pass. -/
theorem limits_past_61_not_honoured :
    let text := String.ofList (nested (List.replicate 63 .or) .tag "x").toJson.compact
    let surroundings : Surroundings :=
      { environment := [], file := fun _ => .error .notFound, input := text }
    request? ["--max-depth", "62", "resolve"] = some (.invoke ⟨some 62, .resolve none⟩) ∧
      run (request? ["--max-depth", "62", "resolve"]) surroundings ≠
        (Result.refused (.depthExceeded 62) "").outcome ∧
      (run (request? ["--max-depth", "63", "resolve"]) surroundings).code = 2 := by
  intro text surroundings
  have request : request? ["--max-depth", "62", "resolve"] =
      some (.invoke ⟨some 62, .resolve none⟩) := by cbv
  have another : request? ["--max-depth", "63", "resolve"] =
      some (.invoke ⟨some 63, .resolve none⟩) := by cbv
  have holds : Json.ofText? text.toList =
      some (nested (List.replicate 63 .or) .tag "x").toJson := by
    rw [String.toList_ofList]
    exact (nested (List.replicate 63 .or) .tag "x").whole_toJson.writtenAs_compact.ofText?
  have ended : ∀ limit, run (some (.invoke ⟨some limit, .resolve none⟩)) surroundings =
      (Result.refused (.invalidInput (.malformed .nestedTooDeep)) "").outcome := by
    intro limit
    have deep : 62 < (List.replicate 63 Relation.or).length := by decide
    have configured : surroundings.settings = .ok {} := rfl
    rw [run_resolve (some limit) configured rfl, compileText_nested .none _ _ holds, if_pos deep]
    rfl
  rw [request, another, ended, ended]
  exact ⟨rfl, fun same => messageAt_invalidInput_ne _ 62 "" (messageAt_eq_of_outcome_eq same), rfl⟩

end TaxonomyQuery.Filter
