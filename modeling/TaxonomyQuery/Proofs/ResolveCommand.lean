import TaxonomyQuery.CommandLine.Run
import TaxonomyQuery.Proofs.PrintedText
/-!
The command that compiles a filter text and prints the group: its outcome is that of compiling the
text, within the limit in force.
-/

set_option autoImplicit false

namespace TaxonomyQuery.CommandLine

/-- The text of the filter: that of the named file, or else the input. -/
def Surroundings.filterText (surroundings : Surroundings) : Option String → Except Failure String
  | some path => surroundings.read path
  | none => surroundings.readInput

/-- How a command ends once the text has been compiled or refused, with the place of a fault. -/
def Result.ofCompiled (place : String) (answer : Group → Json) : Except FilterError Group → Result
  | .ok group => .printed (answer group)
  | .error error => .refused error place

variable {surroundings : Surroundings} {file : Option String} {text : String}

theorem resolve_eq (surroundings : Surroundings) (limit : Nat) (file : Option String) :
    resolve surroundings limit file =
      (surroundings.filterText file).map fun text =>
        .ofCompiled (surroundings.positions.filter text) Group.toJson
          (compileText .none limit text) := by
  have ended (found : Except Failure String) :
      (found.bind fun text =>
          match compileText .none limit text with
          | .ok group => Except.ok (Result.printed group.toJson)
          | .error error => .ok (.refused error (surroundings.positions.filter text))) =
        found.map fun text =>
          .ofCompiled (surroundings.positions.filter text) Group.toJson
            (compileText .none limit text) := by
    cases found with
    | error failure => rfl
    | ok text =>
      simp only [Except.bind, Except.map]
      cases compileText .none limit text <;> rfl
  cases file with
  | none => exact ended surroundings.readInput
  | some path => exact ended (surroundings.read path)

/-- The limit given with the command counts before the one that is set. -/
theorem run_resolve {settings : Settings} (maxDepth : Option Nat)
    (configured : surroundings.settings = .ok settings)
    (found : surroundings.filterText file = .ok text) :
    run (some (.invoke ⟨maxDepth, .resolve file⟩)) surroundings =
      (Result.ofCompiled (surroundings.positions.filter text) Group.toJson
        (compileText .none (maxDepth.getD settings.depthLimit) text)).outcome := by
  simp only [run, Invocation.run, Invocation.result, configured, bind, Except.bind,
    resolve_eq, found, Except.map]

theorem ofText?_document {value : Json} (whole : value.Whole) :
    Json.ofText? (document value).toList = some value := by
  rw [document, String.toList_ofList]
  exact (whole.writtenAs_prettyAt 0).ofText?_append
    (List.forall_mem_singleton.mpr (by decide))

theorem whole_toJson_clientError (error : ClientError) : error.toJson.Whole := by
  apply Json.NumbersAre.object
  simp only [List.forall_mem_cons]
  exact ⟨.string _, .string _, by simp⟩

/-- No two values are printed alike. -/
theorem document_injective {value other : Json} (whole : value.Whole) (another : other.Whole)
    (same : document value = document other) : value = other := by
  have read := ofText?_document whole
  rw [same, ofText?_document another] at read
  exact (Option.some.inj read).symm

theorem compileText_eq_ok_iff {lookup : TermLookup} {limit : Nat} {group : Group} :
    compileText lookup limit text = .ok group ↔
      ∃ filter, Filter.ofText text.toList = .ok filter ∧
        filter.compile lookup limit = .ok group := by
  rw [compileText]
  cases Filter.ofText text.toList <;> simp [bind, Except.bind]

end TaxonomyQuery.CommandLine
