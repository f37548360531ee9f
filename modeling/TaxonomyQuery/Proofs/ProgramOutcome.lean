import TaxonomyQuery.Proofs.CommandOutcome
import TaxonomyQuery.Proofs.PrintedGroups
import TaxonomyQuery.Proofs.PrintedLayout
import TaxonomyQuery.Proofs.SettableVariables
/-!
What the program ends with, for every invocation: a document of the answer, a document of what a
client is told of a refused filter, or a report of the earliest step that fails. The one way out of
these three is an environment file with a value that cannot be set, where the program breaks off.
-/

set_option autoImplicit false

namespace TaxonomyQuery

/-! ### Whole numbers are printed -/

namespace Json

theorem integers_integer (value : Int) : (integer value).NumbersAre Number.IsInteger :=
  .number trivial

theorem Whole.integers {value : Json} (whole : value.Whole) :
    value.NumbersAre Number.IsInteger := by
  refine whole.mono fun number holds => ?_
  cases number with
  | integer value => trivial
  | real value => exact holds

end Json

theorem Content.integers_toJson (content : Content) :
    content.toJson.NumbersAre Number.IsInteger := by
  apply Json.NumbersAre.object
  simp only [List.forall_mem_cons]
  exact ⟨Json.integers_integer _, .string _, .string _,
    .array (List.forall_mem_map.mpr fun id _ => Json.integers_integer _), by simp⟩

theorem Bucket.integers_toJson (bucket : Bucket) :
    bucket.toJson.NumbersAre Number.IsInteger := by
  apply Json.NumbersAre.object
  simp only [List.forall_mem_cons]
  exact ⟨.string _, Json.integers_integer _, by simp⟩

namespace CommandLine

theorem integers_queryJson (catalog : Catalog) (postType : String) (facets : List String)
    (group : Group) : (queryJson catalog postType facets group).NumbersAre Number.IsInteger := by
  apply Json.NumbersAre.object
  simp only [List.forall_mem_cons]
  refine ⟨.array (List.forall_mem_map.mpr fun content _ => content.integers_toJson),
    .object (List.forall_mem_map.mpr fun entry _ => ?_), by simp⟩
  exact .array (List.forall_mem_map.mpr fun bucket _ => bucket.integers_toJson)

/-! ### Reports -/

/-- A text with so many spaces in front of every line but the first. -/
inductive Indented (width : Nat) : List Char → List Char → Prop where
  | line {line : List Char} (one : '\n' ∉ line) : Indented width line line
  | lines {line content written : List Char} (one : '\n' ∉ line)
      (further : Indented width content written) :
      Indented width (line ++ '\n' :: content) (line ++ '\n' :: List.replicate width ' ' ++ written)

/-- Causes, each on lines of its own with its number in front, right-aligned in five columns. -/
inductive Numbered : Nat → List String → List Char → Prop where
  | nil {index : Nat} : Numbered index [] []
  | cons {index : Nat} {cause : String} {numeral lines others : List Char} {rest : List String}
      (number : Text.IsNumeral numeral index) (first : Indented 7 cause.toList lines)
      (further : Numbered (index + 1) rest others) :
      Numbered index (cause :: rest)
        ('\n' :: (List.replicate (5 - numeral.length) ' ' ++ numeral ++ [':', ' ']) ++ lines ++
          others)

namespace Failure

/-- A text that reports a failure: what has failed, and its causes, with numbers if they are
several. -/
inductive Reports : Failure → List Char → Prop where
  | alone {message : String} :
      Reports ⟨message, []⟩ ("Error: ".toList ++ message.toList ++ ['\n'])
  | caused {message cause : String} {lines : List Char}
      (indented : Indented 4 cause.toList lines) :
      Reports ⟨message, [cause]⟩
        ("Error: ".toList ++ message.toList ++ ("\n\nCaused by:\n    ".toList ++ lines) ++ ['\n'])
  | chained {message : String} {causes : List String} {lines : List Char}
      (several : 1 < causes.length) (numbered : Numbered 0 causes lines) :
      Reports ⟨message, causes⟩
        ("Error: ".toList ++ message.toList ++ ("\n\nCaused by:".toList ++ lines) ++ ['\n'])

theorem indented_indent (width : Nat) (text : List Char) :
    Indented width text (indent width text) := by
  induction text with
  | nil => exact .line List.not_mem_nil
  | cons c rest ih =>
    rw [indent, List.flatMap_cons, ← indent]
    split
    · rename_i broken
      subst broken
      exact .lines List.not_mem_nil ih
    · rename_i inside
      generalize indent width rest = written at ih
      cases ih with
      | line one => exact .line (List.not_mem_cons_of_ne_of_not_mem (Ne.symm inside) one)
      | lines one further =>
        exact .lines (List.not_mem_cons_of_ne_of_not_mem (Ne.symm inside) one) further

theorem numbered_numbered (index : Nat) (causes : List String) :
    Numbered index causes (numbered index causes) := by
  induction causes generalizing index with
  | nil => exact .nil
  | cons cause rest ih =>
    have numeral := Text.isNumeral_decimal index
    rw [Text.decimal, if_neg (Int.not_lt.mpr (Int.natCast_nonneg index)), Int.natAbs_natCast]
      at numeral
    exact .cons numeral (indented_indent 7 cause.toList) (ih (index + 1))

theorem reports_report (failure : Failure) : failure.Reports failure.report.toList := by
  obtain ⟨message, causes⟩ := failure
  rw [toList_report]
  rcases causes with _ | ⟨first, _ | ⟨second, others⟩⟩
  · rw [causeLines_nil, List.append_nil]
    exact .alone
  · rw [causeLines_singleton]
    exact .caused (indented_indent 4 first.toList)
  · have several : 1 < (first :: second :: others).length := by simp
    rw [causeLines_cons_cons]
    exact .chained several (numbered_numbered 0 (first :: second :: others))

end Failure

/-! ### Ends -/

/-- The text is the value as a document, laid out and with a line break at its end. It is read as
that value, if the numbers are of 64 bits. -/
structure Prints (value : Json) (text : String) : Prop where
  laidOut : ∃ lines, text.toList = lines ++ ['\n'] ∧ LaidOut 0 (.value value) lines
  readBack : value.Whole → Json.ofText? text.toList = some value

theorem prints_document {value : Json} (integers : value.NumbersAre Number.IsInteger) :
    Prints value (document value) where
  laidOut := ⟨value.pretty, String.toList_ofList, Json.laidOut_prettyAt integers 0⟩
  readBack := ofText?_document

/-- What a client is told. -/
def refusalJson (message : String) : Json :=
  .object [("message", .string message), ("category", .string "filter-query")]

theorem integers_refusalJson (message : String) :
    (refusalJson message).NumbersAre Number.IsInteger :=
  (whole_toJson_clientError ⟨message, "filter-query"⟩).integers

theorem integers_of_answers {surroundings : Surroundings} {invocation : Invocation} {value : Json}
    (answers : invocation.Answers surroundings value) : value.NumbersAre Number.IsInteger := by
  cases answers with
  | resolve => exact (Group.whole_toJson _).integers
  | query => exact integers_queryJson _ _ _ _
  | everything => exact integers_queryJson _ _ _ _

/-- How an invocation may end. The trace stands behind a report only. -/
inductive Invocation.EndsWith (surroundings : Surroundings) (invocation : Invocation) :
    Outcome → Prop where
  | answered {value : Json} {text : String} (answers : invocation.Answers surroundings value)
      (prints : Prints value text) : EndsWith surroundings invocation ⟨0, text, ""⟩
  | refused {error : FilterError} {place text : String}
      (refuses : invocation.Refuses surroundings error place)
      (prints : Prints (refusalJson (error.messageAt place)) text) :
      EndsWith surroundings invocation ⟨2, "", text⟩
  | failed {failure : Failure} {text : String}
      (earliest : Step.all.findSome? (invocation.command.failure? surroundings) = some failure)
      (reports : failure.Reports text.toList) :
      EndsWith surroundings invocation ⟨1, "", text ++ surroundings.trace⟩

variable {surroundings : Surroundings} {invocation : Invocation}

namespace Invocation.EndsWith

variable {outcome : Outcome} (ends : invocation.EndsWith surroundings outcome)

include ends

theorem answers_of_code (zero : outcome.code = 0) :
    ∃ value, invocation.Answers surroundings value := by
  cases ends with
  | answered answers => exact ⟨_, answers⟩
  | refused => cases zero
  | failed => cases zero

theorem failure?_of_code (one : outcome.code = 1) :
    ∃ step failure, invocation.command.failure? surroundings step = some failure := by
  cases ends with
  | answered => cases one
  | refused => cases one
  | failed earliest =>
    obtain ⟨step, _, found⟩ := List.exists_of_findSome?_eq_some earliest
    exact ⟨step, _, found⟩

theorem refuses_of_code (two : outcome.code = 2) :
    ∃ error place, invocation.Refuses surroundings error place := by
  cases ends with
  | answered => cases two
  | refused refuses => exact ⟨_, _, refuses⟩
  | failed => cases two

end Invocation.EndsWith

theorem result_of_answers {value : Json} (answers : invocation.Answers surroundings value) :
    invocation.result surroundings = .ok (.printed value) := by
  cases answers with
  | resolve configured found accepted =>
    have compiled := compileText_eq_ok_iff.mpr accepted
    simp only [result_eq, configured, Command.prepare, Command.filterText?, found, Except.bind,
      Except.map, compiled, Result.ofCompiled]
  | query configured loaded found accepted =>
    have compiled := compileText_eq_ok_iff.mpr accepted
    simp only [result_eq, configured, Command.prepare, Command.filterText?, loaded, found,
      Option.map_some, Except.bind, Except.map, compiled, Result.ofCompiled]
  | everything configured loaded =>
    simp only [result_eq, configured, Command.prepare, Command.filterText?, loaded,
      Option.map_none, Except.bind, Except.map]

theorem failure?_of_refuses {error : FilterError} {place : String}
    (refuses : invocation.Refuses surroundings error place) (step : Step) :
    invocation.command.failure? surroundings step = none := by
  have first := error?_result surroundings invocation
  rw [result_of_refuses surroundings refuses, error?_ok] at first
  exact List.findSome?_eq_none_iff.mp first.symm step step.mem_all

/-! ### From the start -/

/-- Variables that can be set, and a file of characters that can be, let the program begin. -/
theorem unsettable?_loaded (settable : surroundings.environment.Settable)
    (plain : ∀ text ∈ EnvironmentFile.search? surroundings.environmentFiles,
      '\x00' ∉ text.toList) : surroundings.loaded.unsettable? = none := by
  rw [Surroundings.loaded]
  split
  · rename_i text found
    exact EnvironmentFile.unsettable?_load settable (plain text found)
  · rfl

theorem mem_of_unsettable? {name value : String}
    (found : surroundings.loaded.unsettable? = some (name, value)) : '\x00' ∈ value.toList := by
  rw [Surroundings.loaded] at found
  split at found
  · exact EnvironmentFile.mem_of_unsettable?_load found
  · cases found

section Settable

variable (sound : surroundings.loaded.unsettable? = none)

include sound

theorem start_of_error {failure : Failure}
    (failed : invocation.result surroundings = .error failure) :
    start (some (.invoke invocation)) surroundings =
      ⟨1, "", failure.report ++ surroundings.trace⟩ := by
  rw [start, sound]
  simp only [run_of_error surroundings failed, Outcome.traced, if_pos]

theorem start_of_printed {value : Json}
    (ended : invocation.result surroundings = .ok (.printed value)) :
    start (some (.invoke invocation)) surroundings = ⟨0, document value, ""⟩ := by
  rw [start, sound]
  simp only [run_of_ok surroundings ended]
  rfl

theorem start_of_refused {error : FilterError} {place : String}
    (ended : invocation.result surroundings = .ok (.refused error place)) :
    start (some (.invoke invocation)) surroundings =
      ⟨2, "", document (refusalJson (error.messageAt place))⟩ := by
  rw [start, sound]
  simp only [run_of_ok surroundings ended]
  rfl

theorem endsWith_start :
    invocation.EndsWith surroundings (start (some (.invoke invocation)) surroundings) := by
  cases ended : invocation.result surroundings with
  | error failure =>
    have first := error?_result surroundings invocation
    rw [ended, error?_error] at first
    rw [start_of_error sound ended]
    exact .failed first.symm failure.reports_report
  | ok result =>
    rcases result_cases surroundings ended with
      ⟨value, rfl, answers⟩ | ⟨error, place, rfl, refuses⟩
    · rw [start_of_printed sound ended]
      exact .answered answers (prints_document (integers_of_answers answers))
    · rw [start_of_refused sound ended]
      exact .refused refuses (prints_document (integers_refusalJson _))

theorem code_start_eq_zero_iff :
    (start (some (.invoke invocation)) surroundings).code = 0 ↔
      ∃ value, invocation.Answers surroundings value := by
  constructor
  · exact (endsWith_start sound).answers_of_code
  · intro ⟨value, answers⟩
    rw [start_of_printed sound (result_of_answers answers)]

theorem code_start_eq_one_iff :
    (start (some (.invoke invocation)) surroundings).code = 1 ↔
      ∃ step failure, invocation.command.failure? surroundings step = some failure := by
  constructor
  · exact (endsWith_start sound).failure?_of_code
  · intro unsound
    obtain ⟨failure, failed⟩ := (fails_iff surroundings).mpr unsound
    rw [start_of_error sound failed]

theorem code_start_eq_two_iff :
    (start (some (.invoke invocation)) surroundings).code = 2 ↔
      (∀ step, invocation.command.failure? surroundings step = none) ∧
        ∃ error place, invocation.Refuses surroundings error place := by
  constructor
  · intro two
    obtain ⟨error, place, refuses⟩ := (endsWith_start sound).refuses_of_code two
    exact ⟨failure?_of_refuses refuses, error, place, refuses⟩
  · intro ⟨_, error, place, refuses⟩
    rw [start_of_refused sound (result_of_refuses surroundings refuses)]

end Settable

/-- An invocation ends in one of three ways, with a document of the answer, a document of what is
told of the refused filter, or a report of the earliest failure among its steps. It is the last one
exactly if a step fails, and the second one exactly if none does and the filter is refused. All this
is so unless the environment file has a value with the character 0: then the program breaks off
before it gets to anything. -/
theorem start_reports_earliest_failure (surroundings : Surroundings) (invocation : Invocation) :
    let outcome := start (some (.invoke invocation)) surroundings
    (surroundings.environment.Settable →
      (∀ text ∈ EnvironmentFile.search? surroundings.environmentFiles, '\x00' ∉ text.toList) →
        surroundings.loaded.unsettable? = none) ∧
    (∀ name value, surroundings.loaded.unsettable? = some (name, value) →
      '\x00' ∈ value.toList ∧ outcome.code = 101 ∧ outcome.stdout = "") ∧
    (surroundings.loaded.unsettable? = none →
      invocation.EndsWith surroundings outcome ∧
        (outcome.code = 0 ↔ ∃ value, invocation.Answers surroundings value) ∧
        (outcome.code = 1 ↔
          ∃ step failure, invocation.command.failure? surroundings step = some failure) ∧
        (outcome.code = 2 ↔
          (∀ step, invocation.command.failure? surroundings step = none) ∧
            ∃ error place, invocation.Refuses surroundings error place)) := by
  intro outcome
  refine ⟨unsettable?_loaded, ?_, ?_⟩
  · intro name value found
    have broken : outcome = ⟨101, "", unsettableText name value⟩ := by
      simp only [outcome, start, found, brokenOff]
    rw [broken]
    exact ⟨mem_of_unsettable? found, rfl, rfl⟩
  · intro sound
    exact ⟨endsWith_start sound, code_start_eq_zero_iff sound, code_start_eq_one_iff sound,
      code_start_eq_two_iff sound⟩

/-- A filter without conditions is answered, one with an empty relation refused, and a catalog with
twin ids is reported also where the file of the filter is missing. -/
theorem start_reports_earliest_failure_of_twin_ids :
    let terms := "\x7b\"terms\": [" ++
      "\x7b\"id\": 1, \"taxonomy\": \"post_tag\", \"name\": \"big\"\x7d, " ++
      "\x7b\"id\": 1, \"taxonomy\": \"post_tag\", \"name\": \"small\"\x7d]\x7d"
    let surroundings (input : String) : Surroundings :=
      { environment := []
        file := fun path => if path = "catalog" then .ok terms else .error .notFound
        input }
    let search : Invocation := ⟨none, .query "catalog" (some "filter") "post" []⟩
    let compilation : Invocation := ⟨some 3, .resolve none⟩
    let answer := start (some (.invoke compilation)) (surroundings "\x7b\x7d")
    let refusal := start (some (.invoke compilation)) (surroundings "\x7b\"and\": []\x7d")
    let report := start (some (.invoke search)) (surroundings "")
    (surroundings "").loaded.unsettable? = none ∧
      compilation.EndsWith (surroundings "\x7b\x7d") answer ∧ answer.code = 0 ∧
      answer.stdout = "\x7b\n  \"items\": []\n\x7d\n" ∧
      compilation.EndsWith (surroundings "\x7b\"and\": []\x7d") refusal ∧ refusal.code = 2 ∧
      search.command.failure? (surroundings "") .readFilter =
        some ⟨"failed to read filter", ["No such file or directory (os error 2)"]⟩ ∧
      search.EndsWith (surroundings "") report ∧ report.code = 1 ∧
      report.stderr =
        "Error: failed to load catalog\n\nCaused by:\n    duplicate term id 1\n" := by
  intro terms surroundings search compilation answer refusal report
  have sound (input : String) : (surroundings input).loaded.unsettable? = none := rfl
  have accepted : Accepts .none 3 "\x7b\x7d" {} := ⟨{}, by cbv, rfl⟩
  have answers : compilation.Answers (surroundings "\x7b\x7d") (Group.toJson {}) :=
    .resolve rfl rfl accepted
  have read : Filter.ofText "\x7b\"and\": []\x7d".toList = .ok { conjuncts := some [] } := by cbv
  have refuses : compilation.Refuses (surroundings "\x7b\"and\": []\x7d") .emptyRelation "" :=
    ⟨{}, .none, _, rfl, .resolve rfl, .inr ⟨_, read, rfl⟩, rfl⟩
  have decoded : Snapshot.decoder.ofText terms.toList =
      .ok { terms := [⟨1, .tag, "big"⟩, ⟨1, .tag, "small"⟩] } := by
    dsimp only [terms]
    cbv
  have found : (surroundings "").file "catalog" = .ok terms := rfl
  have twins : search.command.failure? (surroundings "") .loadCatalog =
      some ⟨"failed to load catalog", ["duplicate term id 1"]⟩ := by
    simp only [Command.failure?, Command.catalog?, search, found, Except.toOption,
      Option.bind_eq_bind, Option.bind_some, decoded]
    rfl
  obtain ⟨_, _, answering⟩ := start_reports_earliest_failure (surroundings "\x7b\x7d") compilation
  obtain ⟨answered, zero, _⟩ := answering (sound _)
  obtain ⟨_, _, refusing⟩ :=
    start_reports_earliest_failure (surroundings "\x7b\"and\": []\x7d") compilation
  obtain ⟨refused, _, _, two⟩ := refusing (sound _)
  obtain ⟨_, _, failing⟩ := start_reports_earliest_failure (surroundings "") search
  obtain ⟨failed, _, one, _⟩ := failing (sound _)
  refine ⟨sound "", answered, zero.mpr ⟨_, answers⟩, ?_, refused,
    two.mpr ⟨failure?_of_refuses refuses, _, _, refuses⟩, rfl, failed, one.mpr ⟨_, _, twins⟩, ?_⟩
  · rw [show answer = _ from start_of_printed (sound _) (result_of_answers answers)]
    decide +kernel
  · have ended : search.result (surroundings "") =
        .error ⟨"failed to load catalog", ["duplicate term id 1"]⟩ := by
      have configured : (surroundings "").settings = .ok {} := rfl
      simp only [Invocation.result, search, configured, bind, Except.bind, query, readCatalog,
        Surroundings.read, found, Except.mapError, decoded]
      rfl
    rw [show report = _ from start_of_error (sound _) ended]
    decide +kernel

/-- A filter that is accepted, among files that can all be read, and yet no document. -/
theorem breaks_off_on_unsettable_value :
    let surroundings : Surroundings :=
      { environment := []
        file := fun path => if path = ".env" then .ok "X=\"Usage: \x00\"" else .error .notFound
        input := "\x7b\x7d" }
    let invocation : Invocation := ⟨none, .resolve none⟩
    request? ["resolve"] = some (.invoke invocation) ∧
      invocation.Answers surroundings (Group.toJson {}) ∧
      (start (request? ["resolve"]) surroundings).code = 101 := by
  intro surroundings invocation
  have accepted : Accepts .none 10 "\x7b\x7d" {} := ⟨{}, by cbv, rfl⟩
  have loaded : surroundings.loaded = ⟨[], some ("X", "Usage: \x00")⟩ := by
    cbv
  have configured : surroundings.settings = .ok {} := by
    rw [Surroundings.settings, Surroundings.allVariables, loaded]
    rfl
  refine ⟨by decide +kernel, .resolve configured rfl accepted, ?_⟩
  rw [start, loaded]
  rfl

end CommandLine

end TaxonomyQuery
