import Bulletin.Http.Message
import Bulletin.Json.Failure
import Bulletin.Store.Error
import Bulletin.View.Wire

namespace Bulletin

inductive PathFault where
  | notText
  | notNumber (segment : String)
  deriving DecidableEq, Repr

def PathFault.message : PathFault → String
  | .notText => "Invalid UTF-8 in `id`"
  | .notNumber segment => "Cannot parse `id` with value `" ++ segment ++ "` to a `u64`"

inductive BodyFault where
  | mediaType
  | tooLong
  | refused (e : Json.Error)
  deriving DecidableEq

def BodyFault.message : BodyFault → String
  | .mediaType => "Expected request with `Content-Type: application/json`"
  | .tooLong => "Failed to buffer the request body: length limit exceeded"
  | .refused e =>
    if e.cause.isData then "Failed to deserialize the JSON body into the target type: " ++ e.traced
    else "Failed to parse the request body as JSON: " ++ e.traced

inductive ServiceError where
  | unknownRoute (uri : Uri)
  | path (fault : PathFault)
  | body (fault : BodyFault)
  | unwritable (reason : String)
  | validation (errors : FieldErrors)
  | orphan (d : Orphan)
  | store (e : StoreError)
  | postNotFound (id : PostId)
  | userNotFound (id : UserId)
  deriving DecidableEq

namespace ServiceError

def unknownAuthor (author : UserId) : ServiceError :=
  .validation (.single "author"
    ("Invalid pk \"" ++ toString author ++ "\" - object does not exist."))

/-- Conflicts of a write are faults of its fields. -/
def ofStore : StoreError → ServiceError
  | .emailTaken _ => .validation (.single "email" "user with this email already exists.")
  | .unknownAuthor author => unknownAuthor author
  | e => .store e

def message : ServiceError → String
  | .unknownRoute uri => "Unknown route requested: " ++ uri.toText
  | .path fault => "Path rejected: " ++ fault.message
  | .body fault => "Incoming JSON rejected: " ++ fault.message
  | .unwritable reason => "JSON response could not be serialized: " ++ reason
  | .validation errors => "Invalid input: " ++ errors.message
  | .orphan d => d.message
  | .store e => e.message
  | .postNotFound id => "Post with id " ++ toString id ++ " was not found."
  | .userNotFound id => "User with id " ++ toString id ++ " was not found."

def status : ServiceError → Status
  | .unknownRoute _ | .path _ | .postNotFound _ | .userNotFound _ => .notFound
  | .body _ | .validation _ => .badRequest
  | .unwritable _ | .orphan _ | .store _ => .internalError

def publicMessage (e : ServiceError) : String :=
  if e.status = .internalError then e.status.reason else e.message

def fields? : ServiceError → Option FieldErrors
  | .validation errors => some errors
  | _ => none

end ServiceError

namespace Response

def json (status : Status) (body : Bytes) : Response :=
  { status, contentType := some "application/json", body }

def ofError (e : ServiceError) : Response :=
  .json e.status (Json.Write.object (
    [("status", Json.Write.natural e.status.code), ("message", Json.Write.text e.publicMessage)]
      ++ e.fields?.toList.map fun errors => ("fields", errors.write)))

end Response

end Bulletin
