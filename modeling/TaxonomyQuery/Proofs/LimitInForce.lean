import TaxonomyQuery.Proofs.CommandOutcome
import TaxonomyQuery.Proofs.GivenLimits
import TaxonomyQuery.Proofs.NestedFilters
/-!
The depth limit in force: what two variables say of it, and the arguments. Both variables have to be
well-formed, also where their values do not count.
-/

set_option autoImplicit false

namespace TaxonomyQuery

/-! ### The variables -/

namespace Settings

/-- The words that switch the limit on or off, in lower case. -/
def words : Bool → List String
  | true => ["on", "true", "1"]
  | false => ["off", "false", "0", ""]

/-- The value of the variable, if it is set, switches the limit on or off. By default it is off. -/
def Toggles (value : Option String) (enabled : Bool) : Prop :=
  match value with
  | some text => String.ofList (Text.lowercase (Text.trim text.toList)) ∈ words enabled
  | none => enabled = false

/-- The value of the variable, if it is set, is the numeral of the limit, but for white space around
it. -/
def Limits (value : Option String) (limit : Nat) : Prop :=
  match value with
  | some text =>
    ∃ numeral, Text.Padded numeral text.toList ∧ Text.IsNatural numeral limit ∧
      limit ≤ Text.greatestNatural
  | none => limit = 10

def toggle (value : Option String) : Except SettingsError Bool :=
  (value.map readToggle).getD (.ok false)

def limitOf (value : Option String) : Except SettingsError Nat :=
  (value.map readLimit).getD (.ok defaultDepthLimit)

theorem readToggle_eq_ok_iff {text : String} {enabled : Bool} :
    readToggle text = .ok enabled ↔
      String.ofList (Text.lowercase (Text.trim text.toList)) ∈ words enabled := by
  rw [readToggle]
  generalize String.ofList (Text.lowercase (Text.trim text.toList)) = word
  split
  next on => rcases on with rfl | rfl | rfl <;> cases enabled <;> simp [words]
  next notOn =>
    split
    next off => rcases off with rfl | rfl | rfl | rfl <;> cases enabled <;> simp [words]
    next notOff => cases enabled <;> simp_all [words]

theorem readLimit_eq_ok_iff {text : String} {limit : Nat} :
    readLimit text = .ok limit ↔
      ∃ numeral, Text.Padded numeral text.toList ∧ Text.IsNatural numeral limit ∧
        limit ≤ Text.greatestNatural := by
  rw [readLimit, Decoder.mapError_eq_ok_iff, Text.readNatural_eq_ok_iff]
  constructor
  · intro written
    exact ⟨_, Text.padded_trim _, written⟩
  · intro ⟨numeral, padded, written, fits⟩
    rw [(Text.IsInteger.natural written).trim_eq padded]
    exact ⟨written, fits⟩

theorem toggle_eq_ok_iff {value : Option String} {enabled : Bool} :
    toggle value = .ok enabled ↔ Toggles value enabled := by
  cases value with
  | none => simp [toggle, Toggles, eq_comm]
  | some text => exact readToggle_eq_ok_iff

theorem limitOf_eq_ok_iff {value : Option String} {limit : Nat} :
    limitOf value = .ok limit ↔ Limits value limit := by
  cases value with
  | none => simp [limitOf, Limits, defaultDepthLimit, eq_comm]
  | some text => exact readLimit_eq_ok_iff

theorem message_of_toggle {value : Option String} {error : SettingsError}
    (failed : toggle value = .error error) :
    error.message = "FILTER_QUERY_DEPTH_ENABLED must be 'on' or 'off'" := by
  cases value with
  | none => cases failed
  | some text =>
    have failed : readToggle text = .error error := failed
    rw [readToggle] at failed
    split at failed
    · cases failed
    · split at failed
      · cases failed
      · cases failed
        rfl

theorem message_of_limitOf {value : Option String} {error : SettingsError}
    (failed : limitOf value = .error error) :
    error.message = "FILTER_QUERY_DEPTH_MAX must be a valid usize" := by
  cases value with
  | none => cases failed
  | some text =>
    have failed : readLimit text = .error error := failed
    rw [readLimit] at failed
    cases read : Text.readNatural Text.greatestNatural (Text.trim text.toList) with
    | ok limit =>
      rw [read] at failed
      cases failed
    | error fault =>
      rw [read] at failed
      cases failed
      rfl

theorem read_eq (value? : String → Option String) :
    read value? =
      (toggle (value? toggleName)).bind fun enabled =>
        (limitOf (value? limitName)).bind fun limit => .ok ⟨enabled, limit⟩ := by
  rw [read]
  cases value? toggleName <;> cases value? limitName <;> rfl

variable {value? : String → Option String}

theorem read_eq_ok_iff {settings : Settings} :
    read value? = .ok settings ↔
      Toggles (value? toggleName) settings.enabled ∧ Limits (value? limitName) settings.limit := by
  rw [read_eq, ← toggle_eq_ok_iff, ← limitOf_eq_ok_iff]
  cases toggle (value? toggleName) with
  | error error => simp [Except.bind]
  | ok enabled =>
    cases limitOf (value? limitName) with
    | error error => simp [Except.bind]
    | ok limit =>
      obtain ⟨on, number⟩ := settings
      simp [Except.bind]

theorem exists_read_iff :
    (∃ settings, read value? = .ok settings) ↔
      (∃ enabled, Toggles (value? toggleName) enabled) ∧
        ∃ limit, Limits (value? limitName) limit := by
  simp only [read_eq_ok_iff]
  constructor
  · intro ⟨settings, toggled, limited⟩
    exact ⟨⟨_, toggled⟩, _, limited⟩
  · intro ⟨⟨enabled, toggled⟩, limit, limited⟩
    exact ⟨⟨enabled, limit⟩, toggled, limited⟩

theorem depthLimit_of_read {settings : Settings} (read : read value? = .ok settings)
    {enabled : Bool} (toggled : Toggles (value? toggleName) enabled) {limit : Nat}
    (limited : Limits (value? limitName) limit) :
    settings.depthLimit = if enabled then limit else 10 := by
  have ⟨same, equal⟩ := read_eq_ok_iff.mp read
  have sameToggle : settings.enabled = enabled := by
    rw [← toggle_eq_ok_iff] at same toggled
    exact Except.ok.inj (same.symm.trans toggled)
  have sameLimit : settings.limit = limit := by
    rw [← limitOf_eq_ok_iff] at equal limited
    exact Except.ok.inj (equal.symm.trans limited)
  rw [depthLimit, sameToggle, sameLimit, defaultDepthLimit]

theorem read_of_bad_toggle (untoggled : ¬ ∃ enabled, Toggles (value? toggleName) enabled) :
    ∃ error, read value? = .error error ∧
      error.message = "FILTER_QUERY_DEPTH_ENABLED must be 'on' or 'off'" := by
  cases found : toggle (value? toggleName) with
  | ok enabled => exact absurd ⟨enabled, toggle_eq_ok_iff.mp found⟩ untoggled
  | error error =>
    refine ⟨error, ?_, message_of_toggle found⟩
    rw [read_eq, found]
    rfl

theorem read_of_bad_limit (toggled : ∃ enabled, Toggles (value? toggleName) enabled)
    (unlimited : ¬ ∃ limit, Limits (value? limitName) limit) :
    ∃ error, read value? = .error error ∧
      error.message = "FILTER_QUERY_DEPTH_MAX must be a valid usize" := by
  obtain ⟨enabled, toggled⟩ := toggled
  cases found : limitOf (value? limitName) with
  | ok limit => exact absurd ⟨limit, limitOf_eq_ok_iff.mp found⟩ unlimited
  | error error =>
    refine ⟨error, ?_, message_of_limitOf found⟩
    rw [read_eq, toggle_eq_ok_iff.mpr toggled, found]
    rfl

end Settings

/-! ### The program -/

namespace CommandLine

theorem run_of_unreadable_settings {surroundings : Surroundings} {error : SettingsError}
    (failed : Settings.read surroundings.allVariables.get? = .error error)
    (invocation : Invocation) :
    run (some (.invoke invocation)) surroundings =
      ⟨1, "", Failure.report ⟨"failed to load configuration", [error.message, error.cause]⟩⟩ := by
  apply run_of_error
  rw [result_eq, Surroundings.settings, failed]
  rfl

theorem run_of_settings {surroundings : Surroundings} {settings : Settings}
    (configured : Settings.read surroundings.allVariables.get? = .ok settings)
    {invocation : Invocation} {prepared : Preparation} {text : String}
    (ready : invocation.command.prepare surroundings = .ok prepared)
    (found : invocation.command.filterText? surroundings = some (.ok text)) :
    run (some (.invoke invocation)) surroundings =
      (Result.ofCompiled (surroundings.positions.filter text) prepared.answer
        (compileText prepared.lookup (invocation.maxDepth.getD settings.depthLimit) text)).outcome := by
  apply run_of_ok
  rw [result_eq, Surroundings.settings, configured, ready, found]
  rfl

open Settings (Toggles Limits)

/-- Two variables decide on the limit, from wherever their values are taken. Settings are read from
them exactly if both are well-formed, and of two that are malformed the toggle is reported. The
limit in force is the number that is set if the toggle is on, and 10 otherwise. The program, once its
environment file is loaded, works with the limit that is last among its arguments, or else with the
one in force, and it fails if a variable is malformed, whatever its arguments are. -/
theorem limit_in_force :
    (∀ value? : String → Option String,
      let toggle := value? "FILTER_QUERY_DEPTH_ENABLED"
      let limit := value? "FILTER_QUERY_DEPTH_MAX"
      ((∃ settings, Settings.read value? = .ok settings) ↔
        (∃ on, Toggles toggle on) ∧ ∃ number, Limits limit number) ∧
      (∀ settings on number, Settings.read value? = .ok settings → Toggles toggle on →
        Limits limit number → settings.depthLimit = if on then number else 10) ∧
      ((¬ ∃ on, Toggles toggle on) → ∃ error, Settings.read value? = .error error ∧
        error.message = "FILTER_QUERY_DEPTH_ENABLED must be 'on' or 'off'") ∧
      ((∃ on, Toggles toggle on) → (¬ ∃ number, Limits limit number) →
        ∃ error, Settings.read value? = .error error ∧
          error.message = "FILTER_QUERY_DEPTH_MAX must be a valid usize")) ∧
    ∀ (surroundings : Surroundings) (arguments : List String) (invocation : Invocation),
      request? arguments = some (.invoke invocation) →
      let toggle := surroundings.allVariables.get? "FILTER_QUERY_DEPTH_ENABLED"
      let limit := surroundings.allVariables.get? "FILTER_QUERY_DEPTH_MAX"
      let outcome := run (request? arguments) surroundings
      (surroundings.loaded.unsettable? = none →
        start (request? arguments) surroundings = outcome.traced surroundings.trace) ∧
      Settles none (limitTexts arguments) invocation.maxDepth ∧
      (¬ ((∃ on, Toggles toggle on) ∧ ∃ number, Limits limit number) →
        ∃ causes, outcome = ⟨1, "", Failure.report ⟨"failed to load configuration", causes⟩⟩) ∧
      ∀ on number, Toggles toggle on → Limits limit number → ∀ prepared text,
        invocation.command.prepare surroundings = .ok prepared →
        invocation.command.filterText? surroundings = some (.ok text) →
          outcome = (Result.ofCompiled (surroundings.positions.filter text) prepared.answer
            (compileText prepared.lookup
              (invocation.maxDepth.getD (if on then number else 10)) text)).outcome := by
  refine ⟨?values, ?program⟩
  case values =>
    intro value? toggle limit
    refine ⟨Settings.exists_read_iff, ?_, Settings.read_of_bad_toggle, Settings.read_of_bad_limit⟩
    intro settings on number read toggled limited
    exact Settings.depthLimit_of_read read toggled limited
  case program =>
    intro surroundings arguments invocation understood toggle limit outcome
    have outcome_eq : outcome = run (some (.invoke invocation)) surroundings :=
      congrArg (fun request => run request surroundings) understood
    have readable : (∃ settings, Settings.read surroundings.allVariables.get? = .ok settings) ↔
        (∃ on, Toggles toggle on) ∧ ∃ number, Limits limit number := Settings.exists_read_iff
    refine ⟨fun sound => by rw [start, sound], request?_settles understood, ?_, ?_⟩
    · intro malformed
      rw [← readable] at malformed
      cases read : Settings.read surroundings.allVariables.get? with
      | ok settings => exact absurd ⟨settings, read⟩ malformed
      | error error => exact ⟨_, outcome_eq.trans (run_of_unreadable_settings read invocation)⟩
    · intro on number toggled limited prepared text ready found
      obtain ⟨settings, read⟩ := readable.mpr ⟨⟨on, toggled⟩, number, limited⟩
      rw [outcome_eq, run_of_settings read ready found,
        Settings.depthLimit_of_read read toggled limited]

/-- Limits in front of the command and behind it, along with variables that set another one or are
malformed. The filter has eleven levels, which tells all these limits apart. -/
theorem limit_in_force_of_overridden :
    let filter := String.ofList (Filter.nested (List.replicate 11 .or) .tag "x").toJson.compact
    let environment : Variables :=
      [("FILTER_QUERY_DEPTH_ENABLED", "\u2003oN"), ("FILTER_QUERY_DEPTH_MAX", " +0012\n")]
    let malformed : Variables := [("FILTER_QUERY_DEPTH_MAX", "ten")]
    let surroundings (environment : Variables) : Surroundings :=
      { environment, file := fun _ => .error .notFound, input := filter }
    let arguments := ["--max-depth=3", "resolve", "--max-depth", "+1"]
    let compiled (limit : Nat) : Outcome :=
      (Result.ofCompiled "" Group.toJson (compileText .none limit filter)).outcome
    [1, 3, 10, 12].Pairwise (compiled · ≠ compiled ·) ∧
      (∃ settings, Settings.read environment.get? = .ok settings ∧ settings.depthLimit = 12) ∧
      request? ["resolve"] = some (.invoke ⟨none, .resolve none⟩) ∧
      run (request? ["resolve"]) (surroundings environment) = compiled 12 ∧
      request? arguments = some (.invoke ⟨some 1, .resolve none⟩) ∧
      limitTexts arguments = ["3", "+1"] ∧ Settles none (limitTexts arguments) (some 1) ∧
      run (request? arguments) (surroundings environment) = compiled 1 ∧
      ∃ causes, run (request? arguments) (surroundings malformed) =
        ⟨1, "", Failure.report ⟨"failed to load configuration", causes⟩⟩ := by
  intro filter environment malformed surroundings arguments compiled
  have holds : Json.ofText? filter.toList =
      some (Filter.nested (List.replicate 11 .or) .tag "x").toJson := by
    rw [String.toList_ofList]
    exact (Filter.whole_toJson _).writtenAs_compact.ofText?
  have apart {limit other : Nat} (exceeded : limit < 11) (distinct : limit ≠ other) :
      compiled limit ≠ compiled other :=
    Filter.outcome_ofCompiled_nested_ne .none holds (by decide) exceeded distinct "" Group.toJson
  have distinct : [1, 3, 10, 12].Pairwise (compiled · ≠ compiled ·) := by
    simp only [List.pairwise_cons, List.forall_mem_cons]
    refine ⟨⟨apart ?_ ?_, apart ?_ ?_, apart ?_ ?_, by simp⟩,
      ⟨apart ?_ ?_, apart ?_ ?_, by simp⟩, ⟨apart ?_ ?_, by simp⟩, by simp⟩
    all_goals decide
  have enabled : environment.get? "FILTER_QUERY_DEPTH_ENABLED" = some "\u2003oN" := by
    decide +kernel
  have number : environment.get? "FILTER_QUERY_DEPTH_MAX" = some " +0012\n" := by decide +kernel
  have word : malformed.get? "FILTER_QUERY_DEPTH_MAX" = some "ten" := by decide +kernel
  have toggled : Toggles (environment.get? "FILTER_QUERY_DEPTH_ENABLED") true := by
    rw [enabled, ← Settings.toggle_eq_ok_iff]
    decide +kernel
  have limited : Limits (environment.get? "FILTER_QUERY_DEPTH_MAX") 12 := by
    rw [number, ← Settings.limitOf_eq_ok_iff]
    decide +kernel
  have unlimited : ¬ ∃ number, Limits (malformed.get? "FILTER_QUERY_DEPTH_MAX") number := by
    rw [word]
    intro ⟨number, limited⟩
    have read := Settings.limitOf_eq_ok_iff.mpr limited
    cases read
  have plain : request? ["resolve"] = some (.invoke ⟨none, .resolve none⟩) := by decide +kernel
  have overriding : request? arguments = some (.invoke ⟨some 1, .resolve none⟩) := by
    decide +kernel
  have counting (environment : Variables) :
      (surroundings environment).allVariables = environment := rfl
  obtain ⟨values, program⟩ := limit_in_force
  obtain ⟨readable, inForce, _⟩ := values environment.get?
  obtain ⟨settings, read⟩ := readable.mpr ⟨⟨true, toggled⟩, 12, limited⟩
  obtain ⟨_, _, _, alone⟩ := program (surroundings environment) _ _ plain
  obtain ⟨_, settled, _, overridden⟩ := program (surroundings environment) _ _ overriding
  obtain ⟨_, _, failed, _⟩ := program (surroundings malformed) _ _ overriding
  rw [counting] at alone overridden failed
  exact ⟨distinct, ⟨settings, read, inForce settings true 12 read toggled limited⟩, plain,
    alone true 12 toggled limited ⟨.none, Group.toJson⟩ filter rfl rfl, overriding,
    by decide +kernel, settled,
    overridden true 12 toggled limited ⟨.none, Group.toJson⟩ filter rfl rfl,
    failed fun sound => unlimited sound.2⟩

end CommandLine

end TaxonomyQuery
