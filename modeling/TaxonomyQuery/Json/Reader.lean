import TaxonomyQuery.Json.Document
import TaxonomyQuery.Json.Quoted
/-!
Reading a text as a document. Every text has a document: where reading halts, the halt stands in
the document at that place.
-/

set_option autoImplicit false

namespace TaxonomyQuery

def isSpace (c : Char) : Bool := c = ' ' || c = '\n' || c = '\t' || c = '\r'

def skipSpace (text : List Char) : List Char := text.dropWhile isSpace

namespace Number

/-- Digits that have to be there. At the end of the text one who passes over them has another
fault. -/
def scanDigits (text : List Char) : Except Halt (List Char × List Char) :=
  match text with
  | [] => .error ⟨.endInValue, .invalidNumber⟩
  | c :: _ =>
    if c.isDigit then .ok (text.takeWhile Char.isDigit, text.dropWhile Char.isDigit)
    else .error (.plain .invalidNumber)

/-- The digits before the point, where a zero in front stands alone. -/
def scanWhole (text : List Char) : Except Halt (List Char × List Char) :=
  match text with
  | '0' :: c :: rest =>
    if c.isDigit then .error (.plain .invalidNumber) else .ok (['0'], c :: rest)
  | _ => scanDigits text

def scanFraction : List Char → Except Halt (List Char × List Char)
  | '.' :: rest => scanDigits rest
  | text => .ok ([], text)

def isExponentMark (c : Char) : Bool := c = 'e' || c = 'E'

/-- The exponent, if there is one: whether it is negative, and its digits. -/
def scanExponent : List Char → Except Halt (Option (Bool × List Char) × List Char)
  | [] => .ok (none, [])
  | c :: rest =>
    if isExponentMark c then do
      let signed : Bool × List Char :=
        match rest with
        | '-' :: digits => (true, digits)
        | '+' :: digits => (false, digits)
        | digits => (false, digits)
      let (digits, after) ← scanDigits signed.2
      .ok (some (signed.1, digits), after)
    else
      .ok (none, c :: rest)

/-- A number in front of the text, without its sign, and the text after it. -/
def scanUnsigned (negative : Bool) (text : List Char) : Except Halt (Literal × List Char) := do
  let (whole, text) ← scanWhole text
  let (fraction, text) ← scanFraction text
  let (exponent, text) ← scanExponent text
  .ok (⟨negative, whole, fraction, exponent⟩, text)

def scan : List Char → Except Halt (Literal × List Char)
  | '-' :: rest => scanUnsigned true rest
  | text => scanUnsigned false text

end Number

/-- A document in front of a text, and the text after it or why there is none. -/
structure Reading where
  document : Document
  after : Except Halt (List Char)
deriving Repr

namespace Reading

def complete (document : Document) (rest : List Char) : Reading := ⟨document, .ok rest⟩

def flawed (type : Scalar) (halt : Halt) : Reading :=
  ⟨.flawed type halt.fault (some halt.passing), .error halt⟩

def missing (halt : Halt) : Reading := ⟨.missing halt, .error halt⟩

/-- The characters of a literal word. -/
def readWord : List Char → List Char → Except Fault (List Char)
  | [], text => .ok text
  | _ :: _, [] => .error .endInValue
  | expected :: word, c :: rest =>
    if c = expected then readWord word rest else .error .expectedLiteral

def word (type : Scalar) (document : Document) (word text : List Char) : Reading :=
  match readWord word text with
  | .ok rest => complete document rest
  | .error fault => flawed type (.plain fault)

def string (text : List Char) : Reading :=
  let scan := Quoted.scan 0 text
  match scan.content, scan.after with
  | .ok content, .ok rest => complete (.string (String.ofList content)) rest
  | .error fault, .ok rest => complete (.flawed .string fault none) rest
  | .ok _, .error passing => flawed .string (.plain passing)
  | .error fault, .error passing => flawed .string ⟨fault, passing⟩

def number (text : List Char) : Reading :=
  match Number.scan text with
  | .error halt => flawed .number halt
  | .ok (literal, rest) =>
    match Number.ofLiteral? literal with
    | some value => complete (.number value) rest
    | none => complete (.flawed .number .numberOutOfRange none) rest

/-- A value that is neither an array nor an object. -/
def scalar : List Char → Reading
  | [] => missing (.plain .endInValue)
  | 'n' :: rest => word .null .null ['u', 'l', 'l'] rest
  | 't' :: rest => word .boolean (.boolean true) ['r', 'u', 'e'] rest
  | 'f' :: rest => word .boolean (.boolean false) ['a', 'l', 's', 'e'] rest
  | '"' :: rest => string rest
  | c :: rest =>
    if c = '-' || c.isDigit then number (c :: rest) else missing (.plain .expectedValue)

/-- Items or members up to the end of their array or object. -/
structure Run (α : Type) where
  entries : List α
  cut : Option Halt
  after : Except Halt (List Char)

namespace Run

def close {α : Type} (entries : List α) (rest : List Char) : Run α := ⟨entries, none, .ok rest⟩

def halt {α : Type} (entries : List α) (halt : Halt) : Run α := ⟨entries, some halt, .error halt⟩

def push {α : Type} (entry : α) (run : Run α) : Run α :=
  { run with entries := entry :: run.entries }

end Run

mutual

/-- The value in front of a text; `fuel` bounds the calls. -/
def value : Nat → List Char → Reading
  | 0, _ => missing (.plain .endInValue)
  | fuel + 1, text =>
    match skipSpace text with
    | '[' :: rest =>
      let run : Run Document :=
        match skipSpace rest with
        | [] => .halt [] (.plain .endInList)
        | ']' :: rest => .close [] rest
        | rest => items fuel rest
      ⟨.array run.entries run.cut, run.after⟩
    | '{' :: rest =>
      let run : Run (Name × Document) :=
        match skipSpace rest with
        | [] => .halt [] (.plain .endInObject)
        | '}' :: rest => .close [] rest
        | rest => members fuel rest
      ⟨.object run.entries run.cut, run.after⟩
    | text => scalar text

def items : Nat → List Char → Run Document
  | 0, _ => .halt [] (.plain .endInList)
  | fuel + 1, text =>
    let first := value fuel text
    match first.after with
    | .error halt => .halt [first.document] halt
    | .ok rest =>
      match skipSpace rest with
      | [] => .halt [first.document] (.plain .endInList)
      | ']' :: rest => .close [first.document] rest
      | ',' :: rest =>
        match skipSpace rest with
        | [] => .halt [first.document] (.plain .endInValue)
        | ']' :: _ => .halt [first.document] ⟨.trailingComma, .expectedValue⟩
        | rest => .push first.document (items fuel rest)
      | _ => .halt [first.document] (.plain .expectedCommaOrBracket)

/-- What follows a name: a colon and a value. -/
def named : Nat → List Char → Reading
  | 0, _ => missing (.plain .endInObject)
  | fuel + 1, text =>
    match skipSpace text with
    | [] => missing (.plain .endInObject)
    | ':' :: rest => value fuel rest
    | _ => missing (.plain .expectedColon)

def members : Nat → List Char → Run (Name × Document)
  | 0, _ => .halt [] (.plain .endInObject)
  | fuel + 1, text =>
    match text with
    | '"' :: rest =>
      let scan := Quoted.scan 0 rest
      match scan.after with
      | .error passing =>
        let fault := match scan.content with
          | .error fault => fault
          | .ok _ => passing
        .halt [] ⟨fault, passing⟩
      | .ok rest =>
        let name : Name := scan.content.map String.ofList
        let first := named fuel rest
        match first.after with
        | .error halt => .halt [(name, first.document)] halt
        | .ok rest =>
          match skipSpace rest with
          | [] => .halt [(name, first.document)] (.plain .endInObject)
          | '}' :: rest => .close [(name, first.document)] rest
          | ',' :: rest =>
            match skipSpace rest with
            | [] => .halt [(name, first.document)] ⟨.endInValue, .endInObject⟩
            | '}' :: _ => .halt [(name, first.document)] ⟨.trailingComma, .nameNotString⟩
            | rest => .push (name, first.document) (members fuel rest)
          | _ => .halt [(name, first.document)] (.plain .expectedCommaOrBrace)
    | _ => .halt [] (.plain .nameNotString)

end

end Reading

/-- The document in front of a text. Each call of the reader takes a character or is followed by
one that does, within three. -/
def readDocument (text : List Char) : Reading := Reading.value (3 * text.length + 3) text

/-- The value a text holds and nothing else. -/
def Json.ofText? (text : List Char) : Option Json :=
  let reading := readDocument text
  match reading.after with
  | .ok rest => if skipSpace rest = [] then reading.document.toJson? else none
  | .error _ => none

end TaxonomyQuery
