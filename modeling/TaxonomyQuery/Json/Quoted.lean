import TaxonomyQuery.Json.Fault
/-!
Quoted strings: which characters are written as escapes, and how a quoted string is read. What is
written is read back (`scan_flatMap_encodeChar`).
-/

set_option autoImplicit false

namespace TaxonomyQuery.Quoted

def hexDigit (value : Nat) : Char := Nat.digitChar value

/-- The form a character takes between quotes. -/
def encodeChar (c : Char) : List Char :=
  match c with
  | '"' => ['\\', '"']
  | '\\' => ['\\', '\\']
  | '\x08' => ['\\', 'b']
  | '\x0c' => ['\\', 'f']
  | '\n' => ['\\', 'n']
  | '\r' => ['\\', 'r']
  | '\t' => ['\\', 't']
  | c =>
    if c.toNat < 0x20 then
      ['\\', 'u', '0', '0', hexDigit (c.toNat / 16), hexDigit (c.toNat % 16)]
    else
      [c]

def encode (text : List Char) : List Char := '"' :: text.flatMap encodeChar ++ ['"']

@[simp] theorem encode_nil : encode [] = ['"', '"'] := rfl

def hexValue? (c : Char) : Option Nat :=
  if c.isDigit then some (c.toNat - '0'.toNat)
  else if 'a' ≤ c ∧ c ≤ 'f' then some (c.toNat - 'a'.toNat + 10)
  else if 'A' ≤ c ∧ c ≤ 'F' then some (c.toNat - 'A'.toNat + 10)
  else none

/-- The value of four hexadecimal digits. -/
def hex4? (first second third fourth : Char) : Option Nat := do
  let first ← hexValue? first
  let second ← hexValue? second
  let third ← hexValue? third
  let fourth ← hexValue? fourth
  some (((first * 16 + second) * 16 + third) * 16 + fourth)

def unescape? : Char → Option Char
  | '"' => some '"'
  | '\\' => some '\\'
  | '/' => some '/'
  | 'b' => some '\x08'
  | 'f' => some '\x0c'
  | 'n' => some '\n'
  | 'r' => some '\r'
  | 't' => some '\t'
  | _ => none

def isHighSurrogate (code : Nat) : Bool := 0xD800 ≤ code && code ≤ 0xDBFF

def isLowSurrogate (code : Nat) : Bool := 0xDC00 ≤ code && code ≤ 0xDFFF

/-- The fault where four hexadecimal digits should stand: four more bytes are there, or not. -/
def hexFault (text : List Char) : Fault :=
  if (text.take 4).foldl (fun size c => size + c.utf8Size) 0 < 4 then .endInString
  else .invalidEscape

/-- What one escape stands for, if it is well formed, and how many characters it takes after its
backslash. A surrogate without its partner is well formed and stands for a fault. -/
def readEscape : List Char → Except Fault (Except Fault Char × Nat)
  | [] => .error .endInString
  | 'u' :: a :: b :: c :: d :: rest =>
    match hex4? a b c d with
    | none => .error (hexFault (a :: b :: c :: d :: rest))
    | some code =>
      if isLowSurrogate code then .ok (.error .loneSurrogate, 5)
      else if isHighSurrogate code then readPartner code rest
      else .ok (.ok (Char.ofNat code), 5)
  | 'u' :: rest => .error (hexFault rest)
  | c :: _ =>
    match unescape? c with
    | some plain => .ok (.ok plain, 1)
    | none => .error .invalidEscape
where
  /-- The second escape of a pair, after a first one with the code `high`. -/
  readPartner (high : Nat) : List Char → Except Fault (Except Fault Char × Nat)
    | [] => .error .endInString
    | ['\\'] => .error .endInString
    | '\\' :: 'u' :: a :: b :: c :: d :: rest =>
      match hex4? a b c d with
      | none => .error (hexFault (a :: b :: c :: d :: rest))
      | some low =>
        if isLowSurrogate low then
          .ok (.ok (Char.ofNat (0x10000 + (high - 0xD800) * 0x400 + (low - 0xDC00))), 11)
        else
          .ok (.error .loneSurrogate, 5)
    | '\\' :: 'u' :: rest => .error (hexFault rest)
    | _ => .ok (.error .unfinishedPair, 5)

/-- A quoted string as far as it can be read: what stands between the quotes, or the first fault in
it, and the text after the closing quote, or why there is none. -/
structure Scan where
  content : Except Fault (List Char)
  after : Except Fault (List Char)
deriving Repr

namespace Scan

def close (rest : List Char) : Scan := ⟨.ok [], .ok rest⟩

def stop (fault : Fault) : Scan := ⟨.error fault, .error fault⟩

def push (c : Except Fault Char) (scan : Scan) : Scan :=
  match c with
  | .error fault => { scan with content := .error fault }
  | .ok c => { scan with content := scan.content.map (c :: ·) }

@[simp] theorem push_after (c : Except Fault Char) (scan : Scan) :
    (push c scan).after = scan.after := by
  cases c <;> rfl

end Scan

/-- Reads on between the quotes, past the first `passed` characters, which belong to an escape that
has been read. -/
def scan : Nat → List Char → Scan
  | _, [] => .stop .endInString
  | passed + 1, _ :: rest => scan passed rest
  | 0, c :: rest =>
    if c = '"' then .close rest
    else if c = '\\' then
      match readEscape rest with
      | .error fault => .stop fault
      | .ok (plain, taken) => .push plain (scan taken rest)
    else if c.toNat < 0x20 then .stop .controlCharacter
    else .push (.ok c) (scan 0 rest)

theorem hexValue?_hexDigit {value : Nat} (small : value < 16) :
    hexValue? (hexDigit value) = some value := by
  have all : ∀ value : Fin 16, hexValue? (hexDigit value) = some value.val := by decide
  exact all ⟨value, small⟩

theorem hex4?_of_lt {code : Nat} (small : code < 256) :
    hex4? '0' '0' (hexDigit (code / 16)) (hexDigit (code % 16)) = some code := by
  have high : hexValue? (hexDigit (code / 16)) = some (code / 16) :=
    hexValue?_hexDigit (by omega)
  have low : hexValue? (hexDigit (code % 16)) = some (code % 16) := hexValue?_hexDigit (by omega)
  have zero : hexValue? '0' = some 0 := by decide
  simp only [hex4?, high, low, zero]
  simp only [Option.bind_eq_bind, Option.bind_some, Option.some.injEq]
  omega

/-- A character written between quotes is read back, whatever follows it. -/
theorem scan_encodeChar (c : Char) (rest : List Char) :
    scan 0 (encodeChar c ++ rest) = .push (.ok c) (scan 0 rest) := by
  unfold encodeChar
  split
  any_goals rfl
  split
  · rename_i control
    simp only [List.cons_append, List.nil_append, scan, if_neg (show ¬ '\\' = '"' by decide),
      if_true, readEscape, hex4?_of_lt (show c.toNat < 256 by omega)]
    have notLow : isLowSurrogate c.toNat = false := by
      simp [isLowSurrogate]; omega
    have notHigh : isHighSurrogate c.toNat = false := by
      simp [isHighSurrogate]; omega
    simp only [notLow, notHigh, Bool.false_eq_true, if_false, Char.ofNat_toNat]
    rfl
  · rename_i quote backslash _ _ _ _ _ plain
    simp only [List.cons_append, List.nil_append, scan, if_neg plain]
    rw [if_neg (by rintro rfl; exact quote rfl), if_neg (by rintro rfl; exact backslash rfl)]

theorem scan_flatMap_encodeChar (text rest : List Char) :
    scan 0 (text.flatMap encodeChar ++ '"' :: rest) = ⟨.ok text, .ok rest⟩ := by
  induction text with
  | nil => simp [scan, Scan.close]
  | cons c text ih =>
    rw [List.flatMap_cons, List.append_assoc, scan_encodeChar, ih]
    rfl
end TaxonomyQuery.Quoted
