import Mathlib
import TaxonomyQuery.Proofs.ResolveCommand
/-!
How a command ends. Before it gets to its filter it takes a few steps, any of which may fail, and it
fails for the earliest of them that does. Only then is the filter refused or not, and only where it
is not refused is there an answer.
-/

set_option autoImplicit false

namespace TaxonomyQuery.CommandLine

/-! ### Steps -/

/-- What a command does before it gets to its filter. -/
inductive Step where
  | configure
  | readCatalog
  | decodeCatalog
  | loadCatalog
  | readFilter
deriving DecidableEq, Repr

namespace Step

/-- The steps that lead to a catalog. -/
def ofCatalog : List Step := [.readCatalog, .decodeCatalog, .loadCatalog]

/-- All steps, in the order in which they are taken. -/
def all : List Step := .configure :: ofCatalog ++ [.readFilter]

theorem mem_all (step : Step) : step ∈ all := by cases step <;> decide

end Step

def error? {ε α : Type} : Except ε α → Option ε
  | .error error => some error
  | .ok _ => none

@[simp] theorem error?_error {ε α : Type} (error : ε) :
    error? (.error error : Except ε α) = some error := rfl

@[simp] theorem error?_ok {ε α : Type} (value : α) : error? (.ok value : Except ε α) = none := rfl

namespace Command

/-- The file of the catalog, if the command works on one. -/
def catalog? : Command → Option String
  | .resolve _ => none
  | .query path _ _ _ => some path

/-- What comes of reading the filter, if the command has one. -/
def filterText? (surroundings : Surroundings) : Command → Option (Except Failure String)
  | .resolve file => some (surroundings.filterText file)
  | .query _ filter _ _ => filter.map surroundings.read

/-- Why a file cannot be read. -/
def unread? (surroundings : Surroundings) (path : String) : Option Failure := do
  let error ← error? (surroundings.file path)
  some ⟨"failed to read " ++ path, [error.message]⟩

/-- Why a step of a command fails, taken by itself. A step that has nothing to work on does not,
whether the command does without it or an earlier step has failed. -/
def failure? (surroundings : Surroundings) (command : Command) : Step → Option Failure
  | .configure => do
    let error ← error? (Settings.read surroundings.allVariables.get?)
    some ⟨"failed to load configuration", [error.message, error.cause]⟩
  | .readCatalog => do
    let path ← command.catalog?
    unread? surroundings path
  | .decodeCatalog => do
    let path ← command.catalog?
    let text ← (surroundings.file path).toOption
    let error ← error? (Snapshot.decoder.ofText text.toList)
    some ⟨"invalid catalog snapshot " ++ path,
      [error.message ++ surroundings.positions.snapshot text]⟩
  | .loadCatalog => do
    let path ← command.catalog?
    let text ← (surroundings.file path).toOption
    let snapshot ← (Snapshot.decoder.ofText text.toList).toOption
    let error ← error? (Catalog.ofSnapshot snapshot)
    some ⟨"failed to load catalog", [error.message]⟩
  | .readFilter =>
    match command with
    | .resolve none => do
      let error ← error? surroundings.input
      some ⟨"failed to read stdin", [error.message]⟩
    | .resolve (some path) | .query _ (some path) _ _ => unread? surroundings path
    | .query _ none _ _ => none

end Command

/-! ### Refusals and answers -/

/-- The filter that a command has to compile, as a text, and the lookup that its patterns are given
to. -/
inductive Command.Poses (surroundings : Surroundings) : Command → TermLookup → String → Prop where
  | resolve {file : Option String} {text : String}
      (found : surroundings.filterText file = .ok text) :
      Poses surroundings (.resolve file) .none text
  | query {path filter postType text : String} {facets : List String} {catalog : Catalog}
      (loaded : readCatalog surroundings path = .ok catalog)
      (found : surroundings.read filter = .ok text) :
      Poses surroundings (.query path (some filter) postType facets) catalog.lookup text

/-- The text is that of a filter that is compiled within the limit. -/
def Accepts (lookup : TermLookup) (limit : Nat) (text : String) (group : Group) : Prop :=
  ∃ filter, Filter.ofText text.toList = .ok filter ∧ filter.compile lookup limit = .ok group

/-- The text is not that of a filter, or the filter is not one that can be compiled within the
limit. -/
def Rejects (lookup : TermLookup) (limit : Nat) (text : String) (error : FilterError) : Prop :=
  Filter.ofText text.toList = .error error ∨
    ∃ filter, Filter.ofText text.toList = .ok filter ∧ filter.compile lookup limit = .error error

/-- The filter of an invocation is refused under the limit given with it, or else the one that is
set. The place is that of a fault of its text. -/
def Invocation.Refuses (surroundings : Surroundings) (invocation : Invocation)
    (error : FilterError) (place : String) : Prop :=
  ∃ settings lookup text, surroundings.settings = .ok settings ∧
    invocation.command.Poses surroundings lookup text ∧
    Rejects lookup (invocation.maxDepth.getD settings.depthLimit) text error ∧
    place = surroundings.positions.filter text

/-- The answer to an invocation whose filter is accepted, or that has none. -/
inductive Invocation.Answers (surroundings : Surroundings) : Invocation → Json → Prop where
  | resolve {maxDepth : Option Nat} {file : Option String} {settings : Settings} {text : String}
      {group : Group} (configured : surroundings.settings = .ok settings)
      (found : surroundings.filterText file = .ok text)
      (accepted : Accepts .none (maxDepth.getD settings.depthLimit) text group) :
      Answers surroundings ⟨maxDepth, .resolve file⟩ group.toJson
  | query {maxDepth : Option Nat} {path filter postType text : String} {facets : List String}
      {settings : Settings} {catalog : Catalog} {group : Group}
      (configured : surroundings.settings = .ok settings)
      (loaded : readCatalog surroundings path = .ok catalog)
      (found : surroundings.read filter = .ok text)
      (accepted : Accepts catalog.lookup (maxDepth.getD settings.depthLimit) text group) :
      Answers surroundings ⟨maxDepth, .query path (some filter) postType facets⟩
        (queryJson catalog postType facets group)
  | everything {maxDepth : Option Nat} {path postType : String} {facets : List String}
      {settings : Settings} {catalog : Catalog} (configured : surroundings.settings = .ok settings)
      (loaded : readCatalog surroundings path = .ok catalog) :
      Answers surroundings ⟨maxDepth, .query path none postType facets⟩
        (queryJson catalog postType facets {})

theorem compileText_eq_error_iff {lookup : TermLookup} {limit : Nat} {text : String}
    {error : FilterError} :
    compileText lookup limit text = .error error ↔ Rejects lookup limit text error := by
  rw [compileText, Rejects]
  cases Filter.ofText text.toList <;> simp [bind, Except.bind]

/-! ### Both commands alike -/

/-- What a command has in hand when it gets to its filter: the lookup for patterns, and how it
answers with the group. -/
structure Preparation where
  lookup : TermLookup
  answer : Group → Json

variable (surroundings : Surroundings)

def Command.prepare : Command → Except Failure Preparation
  | .resolve _ => .ok ⟨.none, Group.toJson⟩
  | .query path _ postType facets => (readCatalog surroundings path).map fun catalog =>
    ⟨catalog.lookup, queryJson catalog postType facets⟩

/-- Settings, preparation, filter: without a filter the answer is that of the empty group. -/
theorem result_eq (invocation : Invocation) :
    invocation.result surroundings =
      surroundings.settings.bind fun settings =>
        (invocation.command.prepare surroundings).bind fun prepared =>
          match invocation.command.filterText? surroundings with
          | none => .ok (.printed (prepared.answer {}))
          | some input => input.map fun text =>
            .ofCompiled (surroundings.positions.filter text) prepared.answer
              (compileText prepared.lookup (invocation.maxDepth.getD settings.depthLimit) text) := by
  obtain ⟨maxDepth, command⟩ := invocation
  rw [Invocation.result]
  cases surroundings.settings with
  | error failure => rfl
  | ok settings =>
    cases command with
    | resolve file => exact resolve_eq surroundings _ file
    | query path filter postType facets =>
      simp only [bind, Except.bind, Command.prepare, Command.filterText?, query]
      cases readCatalog surroundings path with
      | error failure => rfl
      | ok catalog =>
        cases filter with
        | none => rfl
        | some file =>
          simp only [Option.map_some, Except.map]
          cases surroundings.read file with
          | error failure => rfl
          | ok text =>
            simp only
            cases compileText catalog.lookup _ text <;> rfl

theorem error?_mapError {ε δ α : Type} (wrap : ε → δ) (ended : Except ε α) :
    error? (ended.mapError wrap) = (error? ended).map wrap := by
  cases ended <;> rfl

theorem error?_read (path : String) :
    error? (surroundings.read path) = Command.unread? surroundings path := by
  rw [Surroundings.read, error?_mapError, Command.unread?]
  cases surroundings.file path <;> rfl

theorem error?_settings :
    error? surroundings.settings =
      Command.failure? surroundings (.resolve none) .configure := by
  rw [Surroundings.settings, error?_mapError, Command.failure?]
  cases Settings.read surroundings.allVariables.get? <;> rfl

/-- A command that works on a catalog is prepared by the steps that lead to it. -/
theorem error?_prepare (command : Command) :
    error? (command.prepare surroundings) =
      Step.ofCatalog.findSome? (command.failure? surroundings) := by
  cases command with
  | resolve file => rfl
  | query path filter postType facets =>
    simp only [Command.prepare, readCatalog, Step.ofCatalog, List.findSome?_cons,
      List.findSome?_nil, Command.failure?, Command.catalog?, Command.unread?, Surroundings.read,
      Option.bind_eq_bind, Option.bind_some]
    cases surroundings.file path with
    | error failure => rfl
    | ok text =>
      simp only [bind, Except.bind, Except.mapError, Except.toOption, Option.bind, error?_ok]
      cases Snapshot.decoder.ofText text.toList with
      | error error => rfl
      | ok snapshot =>
        simp only [error?_ok]
        cases Catalog.ofSnapshot snapshot <;> rfl

/-- Reading the filter fails as the step that reads it does. -/
theorem failure?_readFilter (command : Command) :
    command.failure? surroundings .readFilter =
      (command.filterText? surroundings).bind error? := by
  cases command with
  | resolve file =>
    cases file with
    | some path => exact (error?_read surroundings path).symm
    | none =>
      simp only [Command.failure?, Command.filterText?, Surroundings.filterText,
        Surroundings.readInput, Option.bind_some, error?_mapError]
      cases surroundings.input <;> rfl
  | query path filter postType facets =>
    cases filter with
    | none => rfl
    | some file => exact (error?_read surroundings file).symm

theorem prepare_eq_ok_iff {path postType : String} {filter : Option String} {facets : List String}
    {prepared : Preparation} :
    (Command.query path filter postType facets).prepare surroundings = .ok prepared ↔
      ∃ catalog, readCatalog surroundings path = .ok catalog ∧
        prepared = ⟨catalog.lookup, queryJson catalog postType facets⟩ := by
  rw [Command.prepare]
  cases readCatalog surroundings path <;> simp [Except.map, eq_comm]

theorem poses_iff {command : Command} {lookup : TermLookup} {text : String} :
    command.Poses surroundings lookup text ↔
      ∃ answer, command.prepare surroundings = .ok ⟨lookup, answer⟩ ∧
        command.filterText? surroundings = some (.ok text) := by
  constructor
  · intro posed
    cases posed with
    | resolve found => exact ⟨_, rfl, congrArg some found⟩
    | @query path filter postType text facets catalog loaded found =>
      refine ⟨queryJson catalog postType facets, ?_, congrArg some found⟩
      exact (prepare_eq_ok_iff surroundings).mpr ⟨catalog, loaded, rfl⟩
  · intro ⟨answer, prepared, found⟩
    cases command with
    | resolve file =>
      cases prepared
      exact .resolve (Option.some.inj found)
    | query path filter postType facets =>
      cases filter with
      | none => cases found
      | some file =>
        obtain ⟨catalog, loaded, same⟩ := (prepare_eq_ok_iff surroundings).mp prepared
        cases same
        exact .query loaded (Option.some.inj found)

/-! ### What an invocation comes to -/

/-- An invocation fails for the first of its steps that does. -/
theorem error?_result (invocation : Invocation) :
    error? (invocation.result surroundings) =
      Step.all.findSome? (invocation.command.failure? surroundings) := by
  have configure : invocation.command.failure? surroundings .configure =
      error? surroundings.settings := (error?_settings surroundings).symm
  rw [Step.all, List.cons_append, List.findSome?_cons, List.findSome?_append,
    List.findSome?_singleton, ← error?_prepare, failure?_readFilter, configure, result_eq]
  cases surroundings.settings with
  | error failure => rfl
  | ok settings =>
    cases invocation.command.prepare surroundings with
    | error failure => rfl
    | ok prepared =>
      cases invocation.command.filterText? surroundings with
      | none => rfl
      | some input => cases input <;> rfl

/-- A command answers with what it has prepared for an accepted filter. -/
theorem answers_of_prepare {maxDepth : Option Nat} {command : Command} {settings : Settings}
    {prepared : Preparation} {text : String} {group : Group}
    (configured : surroundings.settings = .ok settings)
    (ready : command.prepare surroundings = .ok prepared)
    (found : command.filterText? surroundings = some (.ok text))
    (compiled : compileText prepared.lookup (maxDepth.getD settings.depthLimit) text = .ok group) :
    Invocation.Answers surroundings ⟨maxDepth, command⟩ (prepared.answer group) := by
  have accepted := compileText_eq_ok_iff.mp compiled
  cases command with
  | resolve file =>
    cases ready
    exact .resolve configured (Option.some.inj found) accepted
  | query path filter postType facets =>
    obtain ⟨catalog, loaded, rfl⟩ := (prepare_eq_ok_iff surroundings).mp ready
    cases filter with
    | none => cases found
    | some file => exact .query configured loaded (Option.some.inj found) accepted

/-- An invocation that does not fail ends with its answer or with the refusal of its filter. -/
theorem result_cases {invocation : Invocation} {result : Result}
    (ended : invocation.result surroundings = .ok result) :
    (∃ value, result = .printed value ∧ invocation.Answers surroundings value) ∨
      ∃ error place, result = .refused error place ∧
        invocation.Refuses surroundings error place := by
  obtain ⟨maxDepth, command⟩ := invocation
  rw [result_eq] at ended
  cases configured : surroundings.settings with
  | error failure => simp [configured, Except.bind] at ended
  | ok settings =>
    cases ready : command.prepare surroundings with
    | error failure => simp [configured, ready, Except.bind] at ended
    | ok prepared =>
      cases found : command.filterText? surroundings with
      | none =>
        simp only [configured, ready, found, Except.bind, Except.ok.injEq] at ended
        refine .inl ⟨_, ended.symm, ?_⟩
        cases command with
        | resolve file => cases found
        | query path filter postType facets =>
          obtain ⟨catalog, loaded, rfl⟩ := (prepare_eq_ok_iff surroundings).mp ready
          cases filter with
          | none => exact .everything configured loaded
          | some file => cases found
      | some input =>
        cases input with
        | error failure => simp [configured, ready, found, Except.bind, Except.map] at ended
        | ok text =>
          simp only [configured, ready, found, Except.bind, Except.map, Except.ok.injEq] at ended
          cases compiled : compileText prepared.lookup (maxDepth.getD settings.depthLimit) text with
          | ok group =>
            rw [compiled] at ended
            refine .inl ⟨prepared.answer group, ended.symm, ?_⟩
            exact answers_of_prepare surroundings configured ready found compiled
          | error error =>
            rw [compiled] at ended
            have posed := (poses_iff surroundings).mpr ⟨prepared.answer, ready, found⟩
            exact .inr ⟨error, _, ended.symm, settings, prepared.lookup, text, configured, posed,
              compileText_eq_error_iff.mp compiled, rfl⟩

theorem result_of_refuses {invocation : Invocation} {error : FilterError} {place : String}
    (refused : invocation.Refuses surroundings error place) :
    invocation.result surroundings = .ok (.refused error place) := by
  obtain ⟨settings, lookup, text, configured, posed, rejected, rfl⟩ := refused
  obtain ⟨answer, ready, found⟩ := (poses_iff surroundings).mp posed
  have compiled := compileText_eq_error_iff.mpr rejected
  simp only [result_eq, configured, ready, found, Except.bind, Except.map, compiled,
    Result.ofCompiled]

theorem fails_iff {invocation : Invocation} :
    (∃ failure, invocation.result surroundings = .error failure) ↔
      ∃ step failure, invocation.command.failure? surroundings step = some failure := by
  have first := error?_result surroundings invocation
  constructor
  · intro ⟨failure, failed⟩
    rw [failed, error?_error] at first
    obtain ⟨step, _, found⟩ := List.exists_of_findSome?_eq_some first.symm
    exact ⟨step, failure, found⟩
  · intro ⟨step, failure, found⟩
    cases ended : invocation.result surroundings with
    | error earliest => exact ⟨earliest, rfl⟩
    | ok result =>
      rw [ended, error?_ok] at first
      have sound := List.findSome?_eq_none_iff.mp first.symm step step.mem_all
      rw [found] at sound
      cases sound

theorem run_of_error {invocation : Invocation} {failure : Failure}
    (failed : invocation.result surroundings = .error failure) :
    run (some (.invoke invocation)) surroundings = ⟨1, "", failure.report⟩ := by
  rw [run, Invocation.run, failed]
  rfl

theorem run_of_ok {invocation : Invocation} {result : Result}
    (ended : invocation.result surroundings = .ok result) :
    run (some (.invoke invocation)) surroundings = result.outcome := by
  rw [run, Invocation.run, ended]

end TaxonomyQuery.CommandLine
