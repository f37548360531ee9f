import TaxonomyQuery.Json.Token
import TaxonomyQuery.Proofs.SpelledText
/-!
Numbers and literal names as tokens. Whatever scans them takes characters of their word only, so
what is taken from a word is the same in front of every text at which the word stops.
-/

set_option autoImplicit false

namespace TaxonomyQuery.Token

/-- A word in front of such a text ends there. -/
def Stops (text : List Char) : Prop := ∀ c ∈ text.head?, isWordChar c = false

variable {word left other : List Char}

theorem stops_dropWhile (text : List Char) : Stops (text.dropWhile isWordChar) := by
  intro c front
  have head := List.head?_dropWhile_not isWordChar text
  rw [Option.mem_def] at front
  rw [front] at head
  simpa using head

/-- Part of a word can be taken from it without a look at what stands behind it. -/
theorem takeWhile_append {p : Char → Bool} (part : ∀ c, p c → isWordChar c) (word : List Char)
    (stops : Stops left) :
    (word ++ left).takeWhile p = word.takeWhile p ∧
      (word ++ left).dropWhile p = word.dropWhile p ++ left := by
  induction word with
  | nil =>
    cases left with
    | nil => exact ⟨rfl, rfl⟩
    | cons c rest =>
      have refused : p c = false := by
        refine Bool.eq_false_iff.mpr fun taken => ?_
        exact absurd (part c taken) (by simp [stops c rfl])
      simp [refused]
  | cons c word ih =>
    rw [List.cons_append, List.takeWhile_cons, List.dropWhile_cons, List.takeWhile_cons,
      List.dropWhile_cons]
    split
    · exact ⟨congrArg (c :: ·) ih.1, ih.2⟩
    · exact ⟨rfl, rfl⟩

theorem takeWhile_isWordChar_append (each : ∀ c ∈ word, isWordChar c) (stops : Stops left) :
    (word ++ left).takeWhile isWordChar = word := by
  have none : left.takeWhile isWordChar = [] :=
    (takeWhile_append (fun _ taken => taken) [] stops).1
  rw [List.takeWhile_append_of_pos each, none, List.append_nil]

theorem solid_of_isWordChar {c : Char} (part : isWordChar c) :
    isSpace c = false ∧ isMark c = false ∧ c ≠ '"' := by
  simpa [isWordChar, and_assoc] using part

theorem lengthAfter_of_isWordChar {c : Char} (part : isWordChar c) (rest : List Char) :
    lengthAfter c rest = (rest.takeWhile isWordChar).length := by
  obtain ⟨_, mark, quote⟩ := solid_of_isWordChar part
  rw [lengthAfter, mark, if_neg Bool.false_ne_true, if_neg quote]

/-- What is left of a word makes the same first token in front of either text. -/
theorem tokens_append_congr (each : ∀ c ∈ word, isWordChar c) (stops : Stops left)
    (stop : Stops other) (remaining : tokens left = tokens other) :
    tokens (word ++ left) = tokens (word ++ other) := by
  cases word with
  | nil => exact remaining
  | cons c more =>
    obtain ⟨first, further⟩ := List.forall_mem_cons.mp each
    have solid := (solid_of_isWordChar first).1
    simp only [List.cons_append, tokens_cons solid, lengthAfter_of_isWordChar first,
      takeWhile_isWordChar_append further stops, takeWhile_isWordChar_append further stop,
      List.take_left, List.drop_left, remaining]

/-- A scanner that takes characters of words only, and does not look past the word it is in. -/
def Local {ε α : Type} (scanner : List Char → Except ε (α × List Char)) : Prop :=
  ∀ ⦃word left rest : List Char⦄ ⦃value : α⦄, (∀ c ∈ word, isWordChar c) → Stops left →
    scanner (word ++ left) = .ok (value, rest) →
      ∃ more, (∀ c ∈ more, isWordChar c) ∧ rest = more ++ left ∧
        ∀ other, Stops other → scanner (word ++ other) = .ok (value, more ++ other)

/-- What holds of the front of the word, and of all that could stop the word, holds of the front of a
text that begins with the word. -/
theorem forall_head_append {holds : Char → Prop} {word : List Char}
    (own : ∀ c ∈ word.head?, holds c) (other : ∀ c, isWordChar c = false → holds c)
    (stops : Stops left) : ∀ c ∈ (word ++ left).head?, holds c := by
  cases word with
  | nil => exact fun c front => other c (stops c front)
  | cons d word => exact own

/-- A scanner that does the same in front of all texts is local where it is read. -/
theorem exists_of_alike {ε α : Type} {scanner : List Char → Except ε (α × List Char)}
    {more rest : List Char} {found value : α} (part : ∀ c ∈ more, isWordChar c)
    (alike : ∀ other, Stops other → scanner (word ++ other) = .ok (found, more ++ other))
    (stops : Stops left) (read : scanner (word ++ left) = .ok (value, rest)) :
    ∃ more, (∀ c ∈ more, isWordChar c) ∧ rest = more ++ left ∧
      ∀ other, Stops other → scanner (word ++ other) = .ok (value, more ++ other) := by
  rw [alike left stops, Except.ok.injEq, Prod.mk.injEq] at read
  obtain ⟨rfl, rfl⟩ := read
  exact ⟨more, part, rfl, alike⟩

theorem isWordChar_of_isDigit {c : Char} (digit : c.isDigit) : isWordChar c := by
  have differs : ∀ d, d.isDigit = false → c ≠ d := by
    rintro d no rfl
    simp [no] at digit
  have space : isSpace c = false := by
    simp [isSpace, differs]
  have mark : isMark c = false := by
    simp [isMark, differs]
  simp [isWordChar, space, mark, differs]

theorem not_isDigit_of_not_isWordChar {c : Char} (stop : isWordChar c = false) :
    c.isDigit = false := by
  refine Bool.eq_false_iff.mpr fun digit => ?_
  simp [isWordChar_of_isDigit digit] at stop

theorem local_scanDigits : Local Number.scanDigits := by
  intro word left rest value each stops read
  obtain ⟨taken, dropped⟩ := takeWhile_append (fun _ => isWordChar_of_isDigit) word stops
  cases word with
  | nil =>
    cases left with
    | nil => simp [Number.scanDigits] at read
    | cons c left =>
      have solid : c.isDigit = false := not_isDigit_of_not_isWordChar (stops c rfl)
      simp [Number.scanDigits, solid] at read
  | cons c word =>
    rw [List.cons_append] at taken dropped read
    simp only [Number.scanDigits] at read
    split at read
    · rename_i digit
      rw [taken, dropped, Except.ok.injEq, Prod.mk.injEq] at read
      obtain ⟨rfl, rfl⟩ := read
      refine ⟨(c :: word).dropWhile Char.isDigit, ?_, rfl, ?_⟩
      · exact fun d member => each d ((List.dropWhile_sublist _).subset member)
      · intro other stop
        obtain ⟨taken, dropped⟩ :=
          takeWhile_append (fun _ => isWordChar_of_isDigit) (c :: word) stop
        rw [List.cons_append] at taken dropped ⊢
        simp only [Number.scanDigits, digit, if_true, taken, dropped]
    · cases read

theorem scanWhole_of_zero {rest : List Char} (ended : ∀ c ∈ rest.head?, c.isDigit = false) :
    Number.scanWhole ('0' :: rest) = .ok (['0'], rest) := by
  cases rest with
  | nil => rfl
  | cons c rest =>
    have solid : c.isDigit = false := ended c rfl
    simp [Number.scanWhole, solid]

theorem scanWhole_of_ne_zero {text : List Char} (other : ∀ c ∈ text.head?, c ≠ '0') :
    Number.scanWhole text = Number.scanDigits text := by
  unfold Number.scanWhole
  split
  · exact absurd rfl (other '0' rfl)
  · rfl

theorem ne_of_not_isWordChar {d : Char} (part : isWordChar d) (c : Char)
    (stop : isWordChar c = false) : c ≠ d := by
  rintro rfl
  simp [part] at stop

theorem local_scanWhole : Local Number.scanWhole := by
  intro word left rest value each stops read
  have zero : ∀ other, Stops other → ∀ c ∈ other.head?, c ≠ '0' := fun other stop c front =>
    ne_of_not_isWordChar (by decide) c (stop c front)
  rcases word with _ | ⟨c, word⟩
  · rw [List.nil_append, scanWhole_of_ne_zero (zero left stops)] at read
    obtain ⟨more, part, same, further⟩ := local_scanDigits each stops read
    refine ⟨more, part, same, fun other stop => ?_⟩
    rw [List.nil_append, scanWhole_of_ne_zero (zero other stop)]
    exact further other stop
  · obtain ⟨_, others⟩ := List.forall_mem_cons.mp each
    by_cases isZero : c = '0'
    · subst isZero
      -- A zero stands alone: no digit follows it in the word, and none follows the word.
      have ended : ∀ d ∈ word.head?, d.isDigit = false := by
        intro d front
        obtain ⟨tail, rfl⟩ := List.head?_eq_some_iff.mp front
        refine Bool.eq_false_iff.mpr fun digit => ?_
        simp [Number.scanWhole, digit] at read
      have alone : ∀ other, Stops other →
          Number.scanWhole ('0' :: word ++ other) = .ok (['0'], word ++ other) := by
        intro other stop
        exact scanWhole_of_zero
          (forall_head_append ended (fun _ => not_isDigit_of_not_isWordChar) stop)
      exact exists_of_alike others alone stops read
    · have plain : ∀ rest,
          Number.scanWhole (c :: word ++ rest) = Number.scanDigits (c :: word ++ rest) :=
        fun rest => scanWhole_of_ne_zero (by simp [isZero])
      rw [plain] at read
      simp only [plain]
      exact local_scanDigits each stops read

theorem scanFraction_of_ne_point {text : List Char} (other : ∀ c ∈ text.head?, c ≠ '.') :
    Number.scanFraction text = .ok ([], text) := by
  unfold Number.scanFraction
  split
  · exact absurd rfl (other '.' rfl)
  · rfl

theorem local_scanFraction : Local Number.scanFraction := by
  intro word left rest value each stops read
  by_cases point : word.head? = some '.'
  · obtain ⟨digits, rfl⟩ := List.head?_eq_some_iff.mp point
    exact local_scanDigits (List.forall_mem_cons.mp each).2 stops read
  · have none : ∀ other, Stops other →
        Number.scanFraction (word ++ other) = .ok ([], word ++ other) := by
      intro other stop
      apply scanFraction_of_ne_point
      refine forall_head_append ?_ (ne_of_not_isWordChar (by decide)) stop
      rintro c front rfl
      exact point front
    exact exists_of_alike each none stops read

/-- Whether a minus sign stands in front, and the text behind the sign if there is one. -/
def unsign : List Char → Bool × List Char
  | '-' :: digits => (true, digits)
  | '+' :: digits => (false, digits)
  | digits => (false, digits)

theorem unsign_of_digits {digits : List Char} (minus : ∀ c ∈ digits.head?, c ≠ '-')
    (plus : ∀ c ∈ digits.head?, c ≠ '+') : unsign digits = (false, digits) := by
  unfold unsign
  split
  · exact absurd rfl (minus '-' rfl)
  · exact absurd rfl (plus '+' rfl)
  · rfl

theorem unsign_append (word : List Char) (stops : Stops left) :
    unsign (word ++ left) = ((unsign word).1, (unsign word).2 ++ left) := by
  rcases word with _ | ⟨c, word⟩
  · exact unsign_of_digits
      (fun c front => ne_of_not_isWordChar (by decide) c (stops c front))
      (fun c front => ne_of_not_isWordChar (by decide) c (stops c front))
  · by_cases minus : c = '-'
    · rw [minus]
      rfl
    · by_cases plus : c = '+'
      · rw [plus]
        rfl
      · rw [unsign_of_digits (by simpa using minus) (by simpa using plus),
          unsign_of_digits (by simpa using minus) (by simpa using plus)]

theorem mem_of_mem_unsign {c : Char} {text : List Char} (member : c ∈ (unsign text).2) :
    c ∈ text := by
  unfold unsign at member
  split at member
  · exact List.mem_cons_of_mem _ member
  · exact List.mem_cons_of_mem _ member
  · exact member

theorem scanExponent_of_mark {c : Char} (mark : Number.isExponentMark c) (rest : List Char) :
    Number.scanExponent (c :: rest) =
      (Number.scanDigits (unsign rest).2).map fun found =>
        (some ((unsign rest).1, found.1), found.2) := by
  simp only [Number.scanExponent, mark, if_true]
  change (Number.scanDigits (unsign rest).2 >>= _) = _
  cases Number.scanDigits (unsign rest).2 <;> rfl

theorem scanExponent_of_no_mark {text : List Char}
    (other : ∀ c ∈ text.head?, Number.isExponentMark c = false) :
    Number.scanExponent text = .ok (none, text) := by
  cases text with
  | nil => rfl
  | cons c rest =>
    have none : Number.isExponentMark c = false := other c rfl
    simp [Number.scanExponent, none]

theorem isWordChar_of_isExponentMark {c : Char} (mark : Number.isExponentMark c) :
    isWordChar c := by
  simp only [Number.isExponentMark, Bool.or_eq_true, decide_eq_true_eq] at mark
  rcases mark with rfl | rfl <;> decide

theorem local_scanExponent : Local Number.scanExponent := by
  intro word left rest value each stops read
  by_cases marked : ∃ c ∈ word.head?, Number.isExponentMark c
  · obtain ⟨c, front, mark⟩ := marked
    obtain ⟨signed, rfl⟩ := List.head?_eq_some_iff.mp front
    have digits : ∀ d ∈ (unsign signed).2, isWordChar d := fun d member =>
      each d (List.mem_cons_of_mem _ (mem_of_mem_unsign member))
    rw [List.cons_append, scanExponent_of_mark mark, unsign_append signed stops,
      Decoder.map_eq_ok_iff] at read
    obtain ⟨⟨found, after⟩, scanned, same⟩ := read
    obtain ⟨rfl, rfl⟩ := Prod.mk.inj same
    obtain ⟨more, part, rfl, further⟩ := local_scanDigits digits stops scanned
    refine ⟨more, part, rfl, fun other stop => ?_⟩
    rw [List.cons_append, scanExponent_of_mark mark, unsign_append signed stop, further other stop]
    rfl
  · have none : ∀ other, Stops other →
        Number.scanExponent (word ++ other) = .ok (none, word ++ other) := by
      intro other stop
      apply scanExponent_of_no_mark
      refine forall_head_append ?_ ?_ stop
      · exact fun c front => Bool.eq_false_iff.mpr fun mark => marked ⟨c, front, mark⟩
      · intro c outside
        refine Bool.eq_false_iff.mpr fun mark => ?_
        simp [isWordChar_of_isExponentMark mark] at outside
    exact exists_of_alike each none stops read

theorem local_scanUnsigned (negative : Bool) : Local (Number.scanUnsigned negative) := by
  intro word left rest value each stops read
  simp only [Number.scanUnsigned, Decoder.bind_eq_ok_iff] at read ⊢
  obtain ⟨⟨whole, _⟩, first, ⟨fraction, _⟩, second, ⟨exponent, _⟩, third, same⟩ := read
  obtain ⟨rfl, rfl⟩ := Prod.mk.inj (Except.ok.inj same)
  obtain ⟨afterWhole, part, rfl, again⟩ := local_scanWhole each stops first
  obtain ⟨afterFraction, piece, rfl, anew⟩ := local_scanFraction part stops second
  obtain ⟨more, remaining, rfl, further⟩ := local_scanExponent piece stops third
  exact ⟨more, remaining, rfl, fun other stop =>
    ⟨_, again other stop, _, anew other stop, _, further other stop, rfl⟩⟩

theorem scan_of_no_minus {text : List Char} (other : ∀ c ∈ text.head?, c ≠ '-') :
    Number.scan text = Number.scanUnsigned false text := by
  unfold Number.scan
  split
  · exact absurd rfl (other '-' rfl)
  · rfl

theorem local_scan : Local Number.scan := by
  intro word left rest value each stops read
  by_cases minus : word.head? = some '-'
  · obtain ⟨digits, rfl⟩ := List.head?_eq_some_iff.mp minus
    exact local_scanUnsigned true (List.forall_mem_cons.mp each).2 stops read
  · have plain : ∀ other, Stops other →
        Number.scan (word ++ other) = Number.scanUnsigned false (word ++ other) := by
      intro other stop
      apply scan_of_no_minus
      refine forall_head_append ?_ (ne_of_not_isWordChar (by decide)) stop
      rintro c front rfl
      exact minus front
    rw [plain left stops] at read
    obtain ⟨more, part, same, further⟩ := local_scanUnsigned false each stops read
    refine ⟨more, part, same, fun other stop => ?_⟩
    rw [plain other stop]
    exact further other stop

/-- A word goes on up to where the text stops. -/
theorem of_lengthAfter {c : Char} {body : List Char} (part : isWordChar c)
    (length : lengthAfter c (body ++ left) = body.length) :
    (∀ d ∈ body, isWordChar d) ∧ Stops left := by
  rw [lengthAfter_of_isWordChar part] at length
  have whole := List.takeWhile_append_dropWhile (p := isWordChar) (l := body ++ left)
  obtain ⟨taken, dropped⟩ := List.append_inj whole length
  constructor
  · intro d member
    rw [← taken] at member
    exact List.all_eq_true.mp List.all_takeWhile d member
  · rw [← dropped]
    exact stops_dropWhile _

theorem readWord_append (expected rest : List Char) :
    Reading.readWord expected (expected ++ rest) = .ok rest := by
  induction expected with
  | nil => rfl
  | cons c expected ih => rw [List.cons_append, Reading.readWord, if_pos rfl, ih]

theorem local_word {type : Scalar} {document found : Document} {expected body rest : List Char}
    (each : ∀ c ∈ expected, isWordChar c) (stops : Stops left)
    (read : Reading.word type document expected (body ++ left) = .complete found rest) :
    ∃ more, body = expected ++ more ∧ rest = more ++ left ∧
      ∀ other, Reading.word type document expected (body ++ other) =
        .complete found (more ++ other) := by
  obtain ⟨rfl, matched⟩ := Reading.word_eq_complete read
  have again : ∀ more other, Reading.word type document expected (expected ++ more ++ other) =
      .complete document (more ++ other) := by
    intro more other
    rw [Reading.word, List.append_assoc, readWord_append]
  rcases List.append_eq_append_iff.mp (Reading.eq_append_of_readWord matched) with
    ⟨beyond, rfl, rfl⟩ | ⟨more, rfl, rfl⟩
  · -- The word could only go on past the text by a character that stops it.
    cases beyond with
    | nil => exact ⟨[], by simp, by simp, fun other => by simpa using again [] other⟩
    | cons c others =>
      have part : isWordChar c := each c (by simp)
      exact absurd part (by simp [stops c rfl])
  · exact ⟨more, rfl, rfl, again more⟩

theorem local_number {word rest : List Char} {document : Document}
    (each : ∀ c ∈ word, isWordChar c) (stops : Stops left)
    (read : Reading.number (word ++ left) = .complete document rest) :
    ∃ more, (∀ c ∈ more, isWordChar c) ∧ rest = more ++ left ∧
      ∀ other, Stops other →
        Reading.number (word ++ other) = .complete document (more ++ other) := by
  unfold Reading.number at read
  split at read
  · simp [Reading.flawed, Reading.complete] at read
  · rename_i literal after scanned
    obtain ⟨more, part, rfl, further⟩ := local_scan each stops scanned
    have same : rest = more ++ left := by
      split at read
      all_goals
        simp only [Reading.complete, Reading.mk.injEq, Except.ok.injEq] at read
        exact read.2.symm
    refine ⟨more, part, same, fun other stop => ?_⟩
    simp only [Reading.number, further other stop]
    split at read
    all_goals
      simp_all only [Reading.complete, Reading.mk.injEq, and_true]

/-- A scalar that is a word is read alike in front of all texts that stop it. -/
theorem local_scalar {c : Char} {body rest : List Char} {document : Document}
    (part : isWordChar c) (each : ∀ d ∈ body, isWordChar d) (stops : Stops left)
    (read : Reading.scalar (c :: (body ++ left)) = .complete document rest) :
    ∃ more, (∀ d ∈ more, isWordChar d) ∧ rest = more ++ left ∧
      ∀ other, Stops other →
        Reading.scalar (c :: (body ++ other)) = .complete document (more ++ other) := by
  have ofWord : ∀ {type : Scalar} {found : Document} {expected : List Char},
      expected.all isWordChar →
        Reading.word type found expected (body ++ left) = .complete document rest →
          ∃ more, (∀ d ∈ more, isWordChar d) ∧ rest = more ++ left ∧
            ∀ other, Stops other →
              Reading.word type found expected (body ++ other) =
                .complete document (more ++ other) := by
    intro type found expected letters matched
    have letter := List.all_eq_true.mp letters
    obtain ⟨more, rfl, same, further⟩ := local_word letter stops matched
    exact ⟨more, fun d member => each d (List.mem_append_right _ member), same,
      fun other _ => further other⟩
  by_cases isNull : c = 'n'
  · subst isNull
    exact ofWord (by decide) read
  by_cases isTrue : c = 't'
  · subst isTrue
    exact ofWord (by decide) read
  by_cases isFalse : c = 'f'
  · subst isFalse
    exact ofWord (by decide) read
  have front : c = '-' ∨ c.isDigit := by
    have notQuote := (solid_of_isWordChar part).2.2
    simpa [isNull, isTrue, isFalse, notQuote] using Reading.front_of_scalar read
  rw [Reading.scalar_of_number front] at read
  obtain ⟨more, inside, same, further⟩ :=
    local_number (List.forall_mem_cons.mpr ⟨part, each⟩) stops read
  refine ⟨more, inside, same, fun other stop => ?_⟩
  rw [Reading.scalar_of_number front]
  exact further other stop

end TaxonomyQuery.Token
