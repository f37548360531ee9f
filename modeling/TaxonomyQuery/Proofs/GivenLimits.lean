import TaxonomyQuery.CommandLine.Arguments
import TaxonomyQuery.Proofs.Numerals
/-!
The depth limit among the arguments. Whatever other options there are, on either side of the
command, an invocation has the limit that is given last, and none if none is given.
-/

set_option autoImplicit false

namespace TaxonomyQuery.CommandLine

/-! ### Texts given for the limit -/

/-- The text that an argument gives for the limit: the one attached to it, or else the next
argument. -/
def limitText? (first : String) (next : Option String) : Option String :=
  match Word.ofString first with
  | .long name attached => if name = "max-depth" then attached.or next else none
  | _ => none

/-- The texts given for the limit, in their order. -/
def limitTexts : List String → List String
  | [] => []
  | first :: rest => (limitText? first rest.head?).toList ++ limitTexts rest

/-- Of the texts given the last one counts, as the number that it is the numeral of. Without a text
the limit from before stands. -/
inductive Settles (before : Option Nat) : List String → Option Nat → Prop where
  | unchanged : Settles before [] before
  | last {texts : List String} {text : String} {limit : Nat}
      (written : Text.IsNatural text.toList limit) (fits : limit ≤ Text.greatestNatural) :
      Settles before (texts ++ [text]) (some limit)

namespace Settles

variable {before middle after : Option Nat} {texts more : List String}

theorem trans (first : Settles before texts middle) (second : Settles middle more after) :
    Settles before (texts ++ more) after := by
  cases second with
  | unchanged => rwa [List.append_nil]
  | last written fits =>
    rw [← List.append_assoc]
    exact .last written fits

theorem or (settles : Settles none texts after) (before : Option Nat) :
    Settles before texts (after.or before) := by
  cases settles with
  | unchanged => exact .unchanged
  | last written fits => exact .last written fits

end Settles

theorem limitText?_of_plain {first text : String} (word : Word.ofString first = .plain text)
    (next : Option String) : limitText? first next = none := by
  rw [limitText?, word]

theorem eq_of_ofString_plain {value text : String} (word : Word.ofString value = .plain text) :
    value = text := by
  unfold Word.ofString at word
  split at word
  · cases word
  · split at word <;> cases word
  · cases word
  · exact Word.plain.inj word

/-! ### Options -/

/-- An option of the arguments with its value, and the arguments behind it. -/
inductive TakesOption (options after : Options) : List String → List String → Prop where
  | attached {first value : String} {rest : List String} {option : OptionName}
      (word : Word.ofString first = .long option.text (some value))
      (set : options.set? option value = some after) :
      TakesOption options after (first :: rest) rest
  | apart {first value : String} {rest : List String} {option : OptionName}
      (word : Word.ofString first = .long option.text none)
      (plain : Word.ofString value = .plain value)
      (set : options.set? option value = some after) :
      TakesOption options after (first :: value :: rest) rest

/-- What may be found at the head of the arguments. -/
inductive Heads (options : Options) (first : String) (rest : List String) : Head → Prop where
  | option {after : Options} {others : List String}
      (taken : TakesOption options after (first :: rest) others) :
      Heads options first rest (.option after others)
  | plain {text : String} (word : Word.ofString first = .plain text) :
      Heads options first rest (.plain text)
  | terminator (word : Word.ofString first = .terminator) : Heads options first rest .terminator
  | version : Heads options first rest .version
  | help : Heads options first rest .help
  | invalid : Heads options first rest .invalid

variable {known : List OptionName} {options after : Options} {first : String}
  {rest others : List String}

theorem heads_readHead (known : List OptionName) (options : Options) (first : String)
    (rest : List String) : Heads options first rest (readHead known options first rest) := by
  unfold readHead
  split
  next word => exact .plain word
  next word => exact .terminator word
  next => exact .help
  next => exact .version
  next => exact .invalid
  next => exact .help
  next => exact .version
  next name attached _ _ word =>
    split
    next => exact .invalid
    next option found =>
      have named : option.text = name := by simpa using List.find?_some found
      rw [← named] at word
      split
      next value =>
        split
        next set => exact .option (.attached word set)
        next => exact .invalid
      next value arguments =>
        split
        next text plain =>
          obtain rfl := eq_of_ofString_plain plain
          split
          next set => exact .option (.apart word plain set)
          next => exact .invalid
        next => exact .invalid
      next => exact .invalid

theorem limitText?_of_long {option : OptionName} {attached : Option String}
    (word : Word.ofString first = .long option.text attached) (next : Option String) :
    limitText? first next = if option = .maxDepth then attached.or next else none := by
  rw [limitText?, word]
  cases option <;> rfl

theorem settles_of_set?_maxDepth {value : String}
    (set : options.set? .maxDepth value = some after) :
    Settles options.maxDepth [value] after.maxDepth := by
  obtain ⟨limit, taken, same⟩ := Option.bind_eq_some_iff.mp set
  rw [← Option.some.inj same]
  cases before : options.maxDepth with
  | some _ =>
    rw [before] at taken
    cases taken
  | none =>
    rw [before, once] at taken
    cases read : Text.readNatural Text.greatestNatural value.toList with
    | error fault =>
      rw [read] at taken
      cases taken
    | ok number =>
      rw [read] at taken
      cases taken
      have ⟨written, fits⟩ := Text.readNatural_eq_ok_iff.mp read
      have settled : Settles none ([] ++ [value]) (some limit) := .last written fits
      exact settled

theorem settles_of_set? {option : OptionName} {value : String}
    (set : options.set? option value = some after) :
    Settles options.maxDepth (if option = .maxDepth then [value] else []) after.maxDepth := by
  cases option with
  | maxDepth => exact settles_of_set?_maxDepth set
  | facet =>
    rw [← Option.some.inj set]
    exact .unchanged
  | file | catalog | filter | postType =>
    obtain ⟨_, _, same⟩ := Option.bind_eq_some_iff.mp set
    rw [← Option.some.inj same]
    exact .unchanged

/-- What one option does to the limit. -/
theorem TakesOption.settles {arguments : List String}
    (taken : TakesOption options after arguments rest) :
    ∃ texts, limitTexts arguments = texts ++ limitTexts rest ∧
      Settles options.maxDepth texts after.maxDepth := by
  cases taken with
  | attached word set =>
    refine ⟨_, ?_, settles_of_set? set⟩
    rw [limitTexts, limitText?_of_long word]
    split <;> rfl
  | apart word plain set =>
    refine ⟨_, ?_, settles_of_set? set⟩
    rw [limitTexts, limitTexts, limitText?_of_long word, limitText?_of_plain plain]
    split <;> rfl

/-! ### Runs of options -/

theorem readOptions_settles {fuel : Nat} {arguments : List String}
    (read : readOptions known fuel options arguments = some (some after)) :
    Settles options.maxDepth (limitTexts arguments) after.maxDepth := by
  -- The options read so far are in front of the arguments: their limit is the one from before.
  induction fuel generalizing options arguments with
  | zero => cases read
  | succ fuel ih =>
    cases arguments with
    | nil =>
      cases read
      exact .unchanged
    | cons first rest =>
      have heads := heads_readHead known options first rest
      rw [readOptions] at read
      generalize readHead known options first rest = head at heads read
      cases heads with
      | option taken =>
        obtain ⟨texts, given, settled⟩ := taken.settles
        rw [given]
        exact settled.trans (ih read)
      | terminator word =>
        dsimp only at read
        split at read
        next empty =>
          cases read
          rw [List.isEmpty_iff.mp empty, limitTexts, limitText?, word]
          exact .unchanged
        next => cases read
      | help | plain _ | version | invalid => cases read

theorem readCommand_settles {fuel : Nat} {arguments : List String} {invocation : Invocation}
    (read : readCommand fuel options arguments = some (.invoke invocation)) :
    Settles options.maxDepth (limitTexts arguments) invocation.maxDepth := by
  induction fuel generalizing options arguments with
  | zero => cases read
  | succ fuel ih =>
    cases arguments with
    | nil => cases read
    | cons first rest =>
      have heads := heads_readHead [.maxDepth] options first rest
      rw [readCommand] at read
      generalize readHead [.maxDepth] options first rest = head at heads read
      cases heads with
      | option taken =>
        obtain ⟨texts, given, settled⟩ := taken.settles
        rw [given]
        exact settled.trans (ih read)
      | plain word =>
        rw [limitTexts, limitText?_of_plain word]
        dsimp only at read
        split at read
        next => split at read <;> cases read
        next =>
          obtain ⟨⟨known, make⟩, _, read⟩ := Option.bind_eq_some_iff.mp read
          obtain ⟨inner, found, read⟩ := Option.bind_eq_some_iff.mp read
          cases inner with
          | none => cases read
          | some inner =>
            obtain ⟨command, _, made⟩ := Option.bind_eq_some_iff.mp read
            cases made
            -- Behind the command options start anew, and its limit is the one that counts.
            exact (readOptions_settles found).or options.maxDepth
      | help | terminator _ | version | invalid => cases read

theorem request?_settles {arguments : List String} {invocation : Invocation}
    (understood : request? arguments = some (.invoke invocation)) :
    Settles none (limitTexts arguments) invocation.maxDepth :=
  readCommand_settles understood

end TaxonomyQuery.CommandLine
