import TaxonomyQuery.Text.Alphanumeric.Table
import TaxonomyQuery.Text.Visible.Table
/-!
Characters of a text: classes of them, white space at the ends, one text inside another, and the
form in which a text is shown.
-/

set_option autoImplicit false

namespace TaxonomyQuery.Text

/-- A character of one of the ranges of code points, whose bounds belong to them. -/
def within (ranges : List (Nat × Nat)) (c : Char) : Bool :=
  ranges.any fun range => range.1 ≤ c.toNat && c.toNat ≤ range.2

/-- Letters and numerals of every script. -/
def isAlphanumeric (c : Char) : Bool := within Alphanumeric.lettersAndNumerals c

/-- White space in the sense of the character property of that name. -/
def isBlank (c : Char) : Bool :=
  let code := c.toNat
  (9 ≤ code && code ≤ 13) || code = 0x20 || code = 0x85 || code = 0xA0 || code = 0x1680 ||
    (0x2000 ≤ code && code ≤ 0x200A) || code = 0x2028 || code = 0x2029 || code = 0x202F ||
    code = 0x205F || code = 0x3000

def trimLeft (text : List Char) : List Char := text.dropWhile isBlank

theorem trimLeft_cons (c : Char) (rest : List Char) :
    trimLeft (c :: rest) = if isBlank c then trimLeft rest else c :: rest := by
  simp only [trimLeft, List.dropWhile_cons]

/-- The text without the white space at its ends. -/
def trim (text : List Char) : List Char := (trimLeft (trimLeft text).reverse).reverse

/-- Whether one text stands somewhere in another. -/
def isSubstring (part : List Char) : List Char → Bool
  | [] => part.isEmpty
  | c :: rest => part.isPrefixOf (c :: rest) || isSubstring part rest

theorem isSubstring_iff {part text : List Char} : isSubstring part text ↔ part <:+: text := by
  induction text with
  | nil => simp [isSubstring]
  | cons c rest ih => simp [isSubstring, ih, List.infix_cons_iff]

namespace Visible

def isUnseen (c : Char) : Bool := within unseen c

/-- One character as it is shown: a short escape where there is one, else its code point in braces
where it could not be seen. -/
def ofChar (c : Char) : List Char :=
  match c with
  | '"' => ['\\', '"']
  | '\\' => ['\\', '\\']
  | '\n' => ['\\', 'n']
  | '\r' => ['\\', 'r']
  | '\t' => ['\\', 't']
  | '\x00' => ['\\', '0']
  | c =>
    if isUnseen c then
      ['\\', 'u', '\x7b'] ++ Nat.toDigits 16 c.toNat ++ ['\x7d']
    else
      [c]

end Visible

/-- A text shown between quotes, with every character that leaves no mark of its own written as an
escape. -/
def visible (text : List Char) : List Char := '"' :: text.flatMap Visible.ofChar ++ ['"']

end TaxonomyQuery.Text
