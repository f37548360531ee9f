import TaxonomyQuery.Json.Reader
/-!
The tokens of a text: marks, quoted strings, and words, which are all else that stands together. Two
texts with the same tokens differ in the white space between them only.
-/

set_option autoImplicit false

namespace TaxonomyQuery

namespace Token

/-- A character that is a token by itself. -/
def isMark (c : Char) : Bool :=
  c = '[' || c = ']' || c = '\x7b' || c = '\x7d' || c = ',' || c = ':'

def isWordChar (c : Char) : Bool := !isSpace c && !isMark c && c != '"'

/-- How many characters a quoted string takes up to its closing quote. The character behind a
backslash does not close it. -/
def quotedLength : Bool → List Char → Nat
  | _, [] => 0
  | true, _ :: rest => quotedLength false rest + 1
  | false, c :: rest => if c = '"' then 1 else quotedLength (c = '\\') rest + 1

/-- How many characters the token goes on for that begins with `c`. -/
def lengthAfter (c : Char) (rest : List Char) : Nat :=
  if isMark c then 0
  else if c = '"' then quotedLength false rest
  else (rest.takeWhile isWordChar).length

/-- The tokens past the first `passed` characters, which belong to one that has been taken. -/
def tokensPast : Nat → List Char → List (List Char)
  | _, [] => []
  | passed + 1, _ :: rest => tokensPast passed rest
  | 0, c :: rest =>
    if isSpace c then tokensPast 0 rest
    else (c :: rest.take (lengthAfter c rest)) :: tokensPast (lengthAfter c rest) rest

end Token

def tokens (text : List Char) : List (List Char) := Token.tokensPast 0 text

theorem Token.tokensPast_eq (passed : Nat) (text : List Char) :
    tokensPast passed text = tokens (text.drop passed) := by
  induction text generalizing passed with
  | nil => cases passed <;> rfl
  | cons c rest ih =>
    cases passed with
    | zero => rfl
    | succ passed => rw [tokensPast, List.drop_succ_cons, ih]

@[simp] theorem tokens_nil : tokens [] = [] := rfl

theorem tokens_cons_of_space {c : Char} (space : isSpace c) (rest : List Char) :
    tokens (c :: rest) = tokens rest := by
  rw [tokens, Token.tokensPast, if_pos space, tokens]

theorem tokens_cons {c : Char} (solid : isSpace c = false) (rest : List Char) :
    tokens (c :: rest) =
      (c :: rest.take (Token.lengthAfter c rest)) ::
        tokens (rest.drop (Token.lengthAfter c rest)) := by
  rw [tokens, Token.tokensPast, solid, if_neg Bool.false_ne_true, Token.tokensPast_eq]

@[simp] theorem tokens_skipSpace (text : List Char) : tokens (skipSpace text) = tokens text := by
  induction text with
  | nil => rfl
  | cons c rest ih =>
    rw [skipSpace, List.dropWhile_cons]
    split
    · rename_i space
      rw [tokens_cons_of_space space, ← ih]
      rfl
    · rfl

example : tokens " [ \"a ]\",-1.5e3 ]".toList =
    [['['], "\"a ]\"".toList, [','], "-1.5e3".toList, [']']] := by
  decide +kernel

end TaxonomyQuery
