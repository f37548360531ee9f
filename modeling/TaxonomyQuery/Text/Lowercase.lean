import TaxonomyQuery.Text.Lowercase.Table
import TaxonomyQuery.Text.Character
/-!
Lower case of a whole text. A letter's form depends on the letter alone, but for the capital sigma,
which is written in its final form at the end of a word, and the dotted capital I, which becomes
two characters.
-/

set_option autoImplicit false

namespace TaxonomyQuery.Text

namespace Lowercase

/-- The lower case form of a character wherever it stands. -/
def ofChar (c : Char) : List Char :=
  if c = 'İ' then ['i', '\u0307']
  else match runs.findSome? (·.lower? c.toNat) with
    | some code => [Char.ofNat code]
    | none => [c]

/-- Past the characters that case passes over, a letter with a case comes next. -/
def meetsCased (text : List Char) : Bool :=
  match (text.dropWhile (within ignorable)).head? with
  | some c => within cased c
  | none => false

/-- The characters of `text` in lower case, where `before` holds those in front of it, the nearest
first. -/
def after (before : List Char) : List Char → List Char
  | [] => []
  | c :: rest =>
    if c = 'Σ' then
      (if meetsCased before && !meetsCased rest then 'ς' else 'σ') :: after (c :: before) rest
    else
      ofChar c ++ after (c :: before) rest

end Lowercase

def lowercase (text : List Char) : List Char := Lowercase.after [] text

@[simp] theorem lowercase_nil : lowercase [] = [] := rfl

end TaxonomyQuery.Text
