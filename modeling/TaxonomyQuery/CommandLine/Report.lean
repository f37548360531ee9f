import TaxonomyQuery.Text.Numeral
/-!
Reports of a failure: what has failed, and the causes below it, outermost first.
-/

set_option autoImplicit false

namespace TaxonomyQuery.CommandLine

structure Failure where
  message : String
  causes : List String
deriving DecidableEq, Repr

namespace Failure

/-- The text with so many spaces behind each line break. -/
def indent (width : Nat) (text : List Char) : List Char :=
  text.flatMap fun c => if c = '\n' then '\n' :: List.replicate width ' ' else [c]

/-- The number of a cause, right-aligned in five columns. -/
def number (index : Nat) : List Char :=
  let digits := Text.decimalNat index
  List.replicate (5 - digits.length) ' ' ++ digits ++ [':', ' ']

def numbered : Nat → List String → List Char
  | _, [] => []
  | index, cause :: rest =>
    '\n' :: number index ++ indent 7 cause.toList ++ numbered (index + 1) rest

def causeLines : List String → List Char
  | [] => []
  | [cause] => "\n\nCaused by:\n    ".toList ++ indent 4 cause.toList
  | causes => "\n\nCaused by:".toList ++ numbered 0 causes

theorem causeLines_nil : causeLines [] = [] := rfl

theorem causeLines_singleton (cause : String) :
    causeLines [cause] = "\n\nCaused by:\n    ".toList ++ indent 4 cause.toList := rfl

theorem causeLines_cons_cons (first second : String) (others : List String) :
    causeLines (first :: second :: others) =
      "\n\nCaused by:".toList ++ numbered 0 (first :: second :: others) := rfl

def report (failure : Failure) : String :=
  String.ofList ("Error: ".toList ++ failure.message.toList ++ causeLines failure.causes ++ ['\n'])

theorem toList_report (failure : Failure) :
    failure.report.toList =
      "Error: ".toList ++ failure.message.toList ++ causeLines failure.causes ++ ['\n'] :=
  String.toList_ofList

end Failure

end TaxonomyQuery.CommandLine
