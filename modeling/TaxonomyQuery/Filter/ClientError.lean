import TaxonomyQuery.Filter.Basic
import TaxonomyQuery.Json.Record
/-!
What a client is told of a filter that has been refused.
-/

set_option autoImplicit false

namespace TaxonomyQuery

structure ClientError where
  message : String
  category : String
deriving DecidableEq, Repr

/-- What is said of an error that was found in a text. Behind a fault of the text itself stands the
place of it. -/
def FilterError.messageAt (place : String) (error : FilterError) : String :=
  match error with
  | .invalidInput _ => error.message ++ place
  | _ => error.message

def FilterError.toClientError (place : String) (error : FilterError) : ClientError :=
  ⟨error.messageAt place, FilterError.category⟩

namespace ClientError

def toJson (error : ClientError) : Json :=
  .object [("message", .string error.message), ("category", .string error.category)]

/-- An error of which some fields have been read. -/
structure Draft where
  message : Option String := none
  category : Option String := none

def Draft.finish (draft : Draft) : Except DecodeError ClientError := do
  let message ← Record.need "message" draft.message
  let category ← Record.need "category" draft.category
  .ok ⟨message, category⟩

def record : Record Draft ClientError where
  name := "ClientError"
  isOpen := true
  fields := [
    .required "message" Decoder.string fun value draft => { draft with message := some value },
    .required "category" Decoder.string fun value draft => { draft with category := some value }]
  blank := {}
  finish := Draft.finish

def decoder : Decoder ClientError := record.decode

end ClientError

end TaxonomyQuery
