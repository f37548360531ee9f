import TaxonomyQuery.Proofs.Words
/-!
White space between tokens. A text with the same tokens as another one spells the same, since the
reader stops at the end of each token: at a mark, behind a closing quote, or at the end of a word.
So the value of a text depends on its tokens only.
-/

set_option autoImplicit false

namespace TaxonomyQuery

namespace Token

/-! ### The first token -/

theorem quotedLength_le (escaped : Bool) (text : List Char) :
    quotedLength escaped text ≤ text.length := by
  induction text generalizing escaped with
  | nil => cases escaped <;> exact Nat.le_refl 0
  | cons c rest ih =>
    rw [List.length_cons]
    cases escaped with
    | true => exact Nat.succ_le_succ (ih false)
    | false =>
      rw [quotedLength]
      split
      · exact Nat.succ_le_succ (Nat.zero_le _)
      · exact Nat.succ_le_succ (ih _)

theorem lengthAfter_le (c : Char) (rest : List Char) : lengthAfter c rest ≤ rest.length := by
  rw [lengthAfter]
  split
  · exact Nat.zero_le _
  · split
    · exact quotedLength_le false rest
    · exact (List.takeWhile_sublist _).length_le

/-- Where the tokens of two texts are the same, so is the first one, and the tokens behind it. -/
theorem exists_first {text other after : List Char} {c : Char} (first : skipSpace text = c :: after)
    (same : tokens text = tokens other) :
    ∃ body left rest, after = body ++ left ∧ skipSpace other = c :: (body ++ rest) ∧
      lengthAfter c (body ++ left) = body.length ∧ lengthAfter c (body ++ rest) = body.length ∧
      tokens left = tokens rest := by
  rw [← tokens_skipSpace text, ← tokens_skipSpace other, first,
    tokens_cons (isSpace_of_skipSpace first)] at same
  cases found : skipSpace other with
  | nil => simp [found] at same
  | cons d next =>
    rw [found, tokens_cons (isSpace_of_skipSpace found), List.cons.injEq, List.cons.injEq] at same
    obtain ⟨⟨rfl, body⟩, remaining⟩ := same
    have split := List.take_append_drop (lengthAfter c after) after
    have halves := List.take_append_drop (lengthAfter c next) next
    have length : (after.take (lengthAfter c after)).length = lengthAfter c after := by
      rw [List.length_take, Nat.min_eq_left (lengthAfter_le c after)]
    have equal : (next.take (lengthAfter c next)).length = lengthAfter c next := by
      rw [List.length_take, Nat.min_eq_left (lengthAfter_le c next)]
    refine ⟨after.take (lengthAfter c after), after.drop (lengthAfter c after),
      next.drop (lengthAfter c next), split.symm, ?_, ?_, ?_, remaining⟩
    · rw [body, halves]
    · rw [split, length]
    · rw [body, halves, equal]

theorem exists_mark {text other after : List Char} {c : Char} (mark : isMark c)
    (first : skipSpace text = c :: after) (same : tokens text = tokens other) :
    ∃ rest, skipSpace other = c :: rest ∧ tokens after = tokens rest := by
  obtain ⟨body, left, rest, rfl, found, none, _, remaining⟩ := exists_first first same
  rw [lengthAfter, if_pos mark] at none
  obtain rfl := List.eq_nil_of_length_eq_zero none.symm
  exact ⟨rest, found, remaining⟩

theorem tokens_eq_nil_iff {text : List Char} : tokens text = [] ↔ skipSpace text = [] := by
  rw [← tokens_skipSpace]
  cases found : skipSpace text with
  | nil => simp
  | cons c rest => simp [tokens_cons (isSpace_of_skipSpace found)]

/-! ### Quoted strings -/

theorem plain_of_hexValue? {c : Char} {value : Nat} (digit : Quoted.hexValue? c = some value) :
    c ≠ '"' ∧ c ≠ '\\' := by
  constructor
  · rintro rfl
    simp [Quoted.hexValue?] at digit
  · rintro rfl
    simp [Quoted.hexValue?] at digit

theorem quotedLength_of_plain {c : Char} (plain : c ≠ '"' ∧ c ≠ '\\') (rest : List Char) :
    quotedLength false (c :: rest) = quotedLength false rest + 1 := by
  rw [quotedLength, if_neg plain.1, decide_eq_false plain.2]

theorem quotedLength_of_hex4? {a b c d : Char} {code : Nat}
    (digits : Quoted.hex4? a b c d = some code) (rest : List Char) :
    quotedLength false (a :: b :: c :: d :: rest) = quotedLength false rest + 4 := by
  simp only [Quoted.hex4?, Option.bind_eq_bind, Option.bind_eq_some_iff] at digits
  obtain ⟨_, first, _, second, _, third, _, fourth, _⟩ := digits
  rw [quotedLength_of_plain (plain_of_hexValue? first),
    quotedLength_of_plain (plain_of_hexValue? second),
    quotedLength_of_plain (plain_of_hexValue? third),
    quotedLength_of_plain (plain_of_hexValue? fourth)]

/-- An escape without its backslash: what stands for a character and is read as that, whatever
follows it, and does not hold the closing quote. -/
structure IsEscape (escape : List Char) (plain : Char) : Prop where
  read : ∀ rest, Quoted.readEscape (escape ++ rest) = .ok (.ok plain, escape.length)
  inside : ∀ rest, quotedLength true (escape ++ rest) = quotedLength false rest + escape.length

theorem isEscape_single {c plain : Char} (found : Quoted.unescape? c = some plain) :
    IsEscape [c] plain where
  read rest := by
    change Quoted.readEscape (c :: rest) = .ok (.ok plain, 1)
    unfold Quoted.readEscape
    split
    · cases ‹c :: rest = []›
    · obtain ⟨rfl, _⟩ := List.cons.inj ‹c :: rest = _›
      cases found
    · obtain ⟨rfl, _⟩ := List.cons.inj ‹c :: rest = _›
      cases found
    · obtain ⟨rfl, rfl⟩ := List.cons.inj ‹c :: rest = _›
      rw [found]
  inside _ := rfl

theorem isEscape_code {a b c d : Char} {code : Nat} (digits : Quoted.hex4? a b c d = some code)
    (notLow : Quoted.isLowSurrogate code = false) (notHigh : Quoted.isHighSurrogate code = false) :
    IsEscape ['u', a, b, c, d] (Char.ofNat code) where
  read rest := by simp [Quoted.readEscape, digits, notLow, notHigh]
  inside rest := congrArg (· + 1) (quotedLength_of_hex4? digits rest)

theorem isEscape_pair {a b c d e f g h : Char} {high low : Nat}
    (first : Quoted.hex4? a b c d = some high) (second : Quoted.hex4? e f g h = some low)
    (notLow : Quoted.isLowSurrogate high = false) (isHigh : Quoted.isHighSurrogate high)
    (isLow : Quoted.isLowSurrogate low) :
    IsEscape ['u', a, b, c, d, '\\', 'u', e, f, g, h]
      (Char.ofNat (0x10000 + (high - 0xD800) * 0x400 + (low - 0xDC00))) where
  read rest := by
    simp [Quoted.readEscape, Quoted.readEscape.readPartner, first, second, notLow, isHigh, isLow]
  inside rest := by
    have outer := quotedLength_of_hex4? first ('\\' :: 'u' :: e :: f :: g :: h :: rest)
    have inner := quotedLength_of_hex4? second rest
    have between : ∀ text, quotedLength false ('\\' :: 'u' :: text) = quotedLength false text + 2 :=
      fun _ => rfl
    rw [between, inner] at outer
    exact congrArg (· + 1) outer

theorem exists_partner {high : Nat} {text : List Char} {plain : Char} {taken : Nat}
    (read : Quoted.readEscape.readPartner high text = .ok (.ok plain, taken)) :
    ∃ e f g h low more, text = '\\' :: 'u' :: e :: f :: g :: h :: more ∧
      Quoted.hex4? e f g h = some low ∧ Quoted.isLowSurrogate low ∧
      plain = Char.ofNat (0x10000 + (high - 0xD800) * 0x400 + (low - 0xDC00)) ∧ taken = 11 := by
  unfold Quoted.readEscape.readPartner at read
  split at read
  · cases read
  · cases read
  · rename_i e f g h more
    split at read
    · cases read
    · rename_i low digits
      split at read
      · rename_i isLow
        simp only [Except.ok.injEq, Prod.mk.injEq] at read
        exact ⟨e, f, g, h, low, more, rfl, digits, isLow, read.1.symm, read.2.symm⟩
      · cases read
  · cases read
  · cases read

theorem exists_escape {text : List Char} {plain : Char} {taken : Nat}
    (read : Quoted.readEscape text = .ok (.ok plain, taken)) :
    ∃ escape more, text = escape ++ more ∧ taken = escape.length ∧ IsEscape escape plain := by
  unfold Quoted.readEscape at read
  split at read
  · cases read
  · rename_i a b c d rest
    split at read
    · cases read
    · rename_i code digits
      split at read
      · cases read
      · rename_i notLow
        rw [Bool.not_eq_true] at notLow
        split at read
        · rename_i isHigh
          obtain ⟨e, f, g, h, low, more, rfl, partner, isLow, same, length⟩ := exists_partner read
          have paired := isEscape_pair digits partner notLow isHigh isLow
          rw [← same] at paired
          exact ⟨['u', a, b, c, d, '\\', 'u', e, f, g, h], more, rfl, length, paired⟩
        · rename_i notHigh
          cases read
          rw [Bool.not_eq_true] at notHigh
          exact ⟨['u', a, b, c, d], rest, rfl, rfl, isEscape_code digits notLow notHigh⟩
  · cases read
  · rename_i c rest _ _
    split at read
    · rename_i found
      cases read
      exact ⟨[c], rest, rfl, rfl, isEscape_single found⟩
    · cases read

theorem scan_append (escape more : List Char) :
    Quoted.scan escape.length (escape ++ more) = Quoted.scan 0 more := by
  induction escape with
  | nil => rfl
  | cons c escape ih =>
    rw [List.cons_append, List.length_cons, Quoted.scan, ih]

theorem push_eq_iff {plain : Except Fault Char} {scan : Quoted.Scan} {name named : List Char} :
    scan.push plain = ⟨.ok name, .ok named⟩ ↔
      ∃ c more, plain = .ok c ∧ name = c :: more ∧ scan = ⟨.ok more, .ok named⟩ := by
  obtain ⟨content, after⟩ := scan
  cases plain with
  | error fault => simp [Quoted.Scan.push]
  | ok c =>
    cases content with
    | error fault => simp [Quoted.Scan.push, Except.map]
    | ok content =>
      simp only [Quoted.Scan.push, Except.map, Quoted.Scan.mk.injEq, Except.ok.injEq]
      constructor
      · rintro ⟨rfl, rfl⟩
        exact ⟨c, content, rfl, rfl, rfl, rfl⟩
      · rintro ⟨_, _, rfl, rfl, rfl, rfl⟩
        exact ⟨rfl, rfl⟩

/-- A quoted string up to its closing quote, which is read alike whatever follows it. -/
structure IsQuoted (body content : List Char) : Prop where
  read : ∀ rest, Quoted.scan 0 (body ++ rest) = ⟨.ok content, .ok rest⟩
  inside : ∀ rest, quotedLength false (body ++ rest) = body.length

theorem isQuoted_end : IsQuoted ['"'] [] where
  read _ := by simp [Quoted.scan, Quoted.Scan.close]
  inside _ := by simp [quotedLength]

theorem IsQuoted.cons_escape {escape body content : List Char} {plain : Char}
    (escaped : IsEscape escape plain) (quoted : IsQuoted body content) :
    IsQuoted ('\\' :: (escape ++ body)) (plain :: content) where
  read rest := by
    rw [List.cons_append, List.append_assoc, Quoted.scan, if_neg (by decide), if_pos rfl,
      escaped.read]
    simp only [scan_append, quoted.read]
    exact push_eq_iff.mpr ⟨plain, content, rfl, rfl, rfl⟩
  inside rest := by
    rw [List.cons_append, List.append_assoc, quotedLength, if_neg (by decide), decide_eq_true rfl,
      escaped.inside, quoted.inside, List.length_cons, List.length_append, Nat.add_comm body.length]

theorem IsQuoted.cons_plain {c : Char} {body content : List Char} (plain : c ≠ '"' ∧ c ≠ '\\')
    (printed : ¬ c.toNat < 0x20) (quoted : IsQuoted body content) :
    IsQuoted (c :: body) (c :: content) where
  read rest := by
    rw [List.cons_append, Quoted.scan, if_neg plain.1, if_neg plain.2, if_neg printed, quoted.read]
    exact push_eq_iff.mpr ⟨c, content, rfl, rfl, rfl⟩
  inside rest := by
    rw [List.cons_append, quotedLength_of_plain plain, quoted.inside, List.length_cons]

theorem exists_quoted {text name named : List Char}
    (spelled : Quoted.scan 0 text = ⟨.ok name, .ok named⟩) :
    ∃ body, text = body ++ named ∧ IsQuoted body name := by
  -- An escape is passed over at once, so the induction is on the length of the text.
  induction size : text.length using Nat.strongRecOn generalizing text name with
  | _ size ih =>
    subst size
    cases text with
    | nil => simp [Quoted.scan, Quoted.Scan.stop] at spelled
    | cons c text =>
      rw [Quoted.scan] at spelled
      split at spelled
      · rename_i quote
        cases spelled
        exact ⟨['"'], by rw [quote]; rfl, isQuoted_end⟩
      · rename_i notQuote
        split at spelled
        · rename_i backslash
          split at spelled
          · simp [Quoted.Scan.stop] at spelled
          · rename_i plain taken read
            obtain ⟨d, others, rfl, rfl, inner⟩ := push_eq_iff.mp spelled
            obtain ⟨escape, more, rfl, rfl, escaped⟩ := exists_escape read
            rw [scan_append] at inner
            have shorter : more.length < (c :: (escape ++ more)).length := by
              rw [List.length_cons, List.length_append]
              omega
            obtain ⟨body, rfl, quoted⟩ := ih more.length shorter inner rfl
            exact ⟨'\\' :: (escape ++ body), by simp [backslash], quoted.cons_escape escaped⟩
        · rename_i notBackslash
          split at spelled
          · simp [Quoted.Scan.stop] at spelled
          · rename_i printed
            obtain ⟨d, others, same, rfl, inner⟩ := push_eq_iff.mp spelled
            obtain ⟨body, rfl, quoted⟩ := ih text.length (Nat.lt_succ_self _) inner rfl
            obtain rfl := Except.ok.inj same
            exact ⟨c :: body, rfl, quoted.cons_plain ⟨notQuote, notBackslash⟩ printed⟩

/-! ### The same tokens hold the same value -/

theorem exists_name {text other quoted name named : List Char}
    (quote : skipSpace text = '"' :: quoted)
    (spelled : Quoted.scan 0 quoted = ⟨.ok name, .ok named⟩) (same : tokens text = tokens other) :
    ∃ inside rest, skipSpace other = '"' :: inside ∧
      Quoted.scan 0 inside = ⟨.ok name, .ok rest⟩ ∧ tokens named = tokens rest := by
  obtain ⟨body, left, rest, rfl, found, length, _, remaining⟩ := exists_first quote same
  obtain ⟨read, split, quoted⟩ := exists_quoted spelled
  have whole : quotedLength false (body ++ left) = read.length := by
    rw [split, quoted.inside]
  obtain ⟨rfl, rfl⟩ := List.append_inj split (length.symm.trans whole)
  exact ⟨body ++ rest, rest, found, quoted.read rest, remaining⟩

theorem scan_of_string {text rest : List Char} {value : Json}
    (read : Reading.string text = .complete (.plain value) rest) :
    ∃ content, value = .string (String.ofList content) ∧
      Quoted.scan 0 text = ⟨.ok content, .ok rest⟩ := by
  unfold Reading.string at read
  cases scanned : Quoted.scan 0 text with
  | mk content after =>
    rw [scanned] at read
    rcases content with fault | content <;> rcases after with passing | after
    all_goals
      cases value <;> simp_all [Reading.flawed, Reading.complete]

theorem exists_scalar {text other after rest : List Char} {c : Char} {value : Json}
    (first : skipSpace text = c :: after)
    (read : Reading.scalar (c :: after) = .complete (.plain value) rest)
    (same : tokens text = tokens other) :
    ∃ next left, skipSpace other = c :: next ∧
      Reading.scalar (c :: next) = .complete (.plain value) left ∧ tokens rest = tokens left := by
  by_cases quote : c = '"'
  · subst quote
    obtain ⟨content, rfl, scanned⟩ := scan_of_string read
    obtain ⟨next, left, found, again, remaining⟩ := exists_name first scanned same
    refine ⟨next, left, found, ?_, remaining⟩
    simp [Reading.scalar, Reading.string, again]
  · have part : isWordChar c := by
      rcases Reading.front_of_scalar read with rfl | rfl | rfl | rfl | rfl | digit
      · decide
      · decide
      · decide
      · exact absurd rfl quote
      · decide
      · exact isWordChar_of_isDigit digit
    obtain ⟨body, left, next, rfl, found, length, equal, remaining⟩ := exists_first first same
    obtain ⟨each, stops⟩ := of_lengthAfter part length
    obtain ⟨_, stop⟩ := of_lengthAfter part equal
    obtain ⟨more, inside, rfl, further⟩ := local_scalar part each stops read
    exact ⟨body ++ next, more ++ next, found, further next stop,
      tokens_append_congr inside stops stop remaining⟩

end Token

open Token

/-- A text with the same tokens spells the same, and has the same tokens left. -/
theorem Spells.exists_of_tokens_eq {text rest : List Char} {part : Part}
    (spells : Spells text part rest) {other : List Char} (same : tokens text = tokens other) :
    ∃ left, Spells other part left ∧ tokens rest = tokens left := by
  induction spells generalizing other with
  | scalar first notArray notObject read =>
    obtain ⟨next, left, found, again, remaining⟩ := exists_scalar first read same
    exact ⟨left, .scalar found notArray notObject again, remaining⟩
  | emptyArray opened closed =>
    obtain ⟨inside, begun, within⟩ := exists_mark (by decide) opened same
    obtain ⟨left, ended, remaining⟩ := exists_mark (by decide) closed within
    exact ⟨left, .emptyArray begun ended, remaining⟩
  | array opened _ ih =>
    obtain ⟨inside, begun, within⟩ := exists_mark (by decide) opened same
    obtain ⟨left, items, remaining⟩ := ih within
    exact ⟨left, .array begun items, remaining⟩
  | emptyObject opened closed =>
    obtain ⟨inside, begun, within⟩ := exists_mark (by decide) opened same
    obtain ⟨left, ended, remaining⟩ := exists_mark (by decide) closed within
    exact ⟨left, .emptyObject begun ended, remaining⟩
  | object opened _ ih =>
    obtain ⟨inside, begun, within⟩ := exists_mark (by decide) opened same
    obtain ⟨left, members, remaining⟩ := ih within
    exact ⟨left, .object begun members, remaining⟩
  | lastItem _ closed ih =>
    obtain ⟨after, item, behind⟩ := ih same
    obtain ⟨left, ended, remaining⟩ := exists_mark (by decide) closed behind
    exact ⟨left, .lastItem item ended, remaining⟩
  | nextItem _ comma _ ofItem ofOthers =>
    obtain ⟨after, item, behind⟩ := ofItem same
    obtain ⟨more, parted, further⟩ := exists_mark (by decide) comma behind
    obtain ⟨left, others, remaining⟩ := ofOthers further
    exact ⟨left, .nextItem item parted others, remaining⟩
  | lastMember quote spelled colon _ closed ih =>
    obtain ⟨inside, named, begun, again, calling⟩ := exists_name quote spelled same
    obtain ⟨written, parted, behindName⟩ := exists_mark (by decide) colon calling
    obtain ⟨after, value, behind⟩ := ih behindName
    obtain ⟨left, ended, remaining⟩ := exists_mark (by decide) closed behind
    exact ⟨left, .lastMember begun again parted value ended, remaining⟩
  | nextMember quote spelled colon _ comma _ ofValue ofOthers =>
    obtain ⟨inside, named, begun, again, calling⟩ := exists_name quote spelled same
    obtain ⟨written, parted, behindName⟩ := exists_mark (by decide) colon calling
    obtain ⟨after, value, behind⟩ := ofValue behindName
    obtain ⟨more, divided, further⟩ := exists_mark (by decide) comma behind
    obtain ⟨left, others, remaining⟩ := ofOthers further
    exact ⟨left, .nextMember begun again parted value divided others, remaining⟩

/-- The value of a text depends on its tokens only. -/
theorem Json.ofText?_eq_of_tokens_eq {text other : List Char} (same : tokens text = tokens other) :
    Json.ofText? text = Json.ofText? other := by
  have half : ∀ {text other : List Char} {json : Json}, tokens text = tokens other →
      Json.ofText? text = some json → Json.ofText? other = some json := by
    intro text other json same holds
    obtain ⟨rest, spells, ended⟩ := Json.ofText?_eq_some_iff_spells.mp holds
    obtain ⟨left, again, remaining⟩ := spells.exists_of_tokens_eq same
    refine Json.ofText?_eq_some_iff_spells.mpr ⟨left, again, ?_⟩
    rw [← tokens_eq_nil_iff, ← remaining, tokens_eq_nil_iff, ended]
  exact Option.ext fun json => ⟨half same, half same.symm⟩

end TaxonomyQuery
