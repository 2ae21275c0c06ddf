import Bulletin.Http.Uri
import Bulletin.Text.Utf8

namespace Bulletin

structure Request where
  method : String
  uri : Uri
  contentType : Option String := none
  body : Bytes := []
  deriving DecidableEq

inductive Status where
  | ok | created | noContent | badRequest | notFound | methodNotAllowed | internalError
  deriving DecidableEq, Repr

namespace Status

def code : Status → Nat
  | .ok => 200
  | .created => 201
  | .noContent => 204
  | .badRequest => 400
  | .notFound => 404
  | .methodNotAllowed => 405
  | .internalError => 500

def reason : Status → String
  | .ok => "OK"
  | .created => "Created"
  | .noContent => "No Content"
  | .badRequest => "Bad Request"
  | .notFound => "Not Found"
  | .methodNotAllowed => "Method Not Allowed"
  | .internalError => "Internal Server Error"

end Status

structure Response where
  status : Status
  contentType : Option String := none
  allow : Option String := none
  body : Bytes := []
  deriving DecidableEq

end Bulletin
