import Bulletin.Model.Email
import Bulletin.Model.Id

namespace Bulletin

structure Refusal where
  code : String
  message : String
  constraint : Option String
  deriving DecidableEq, Repr

inductive Column where
  | named (name : String)
  | numbered (i : Nat)
  deriving DecidableEq, Repr

def Column.describe : Column → String
  | .named name => "\"" ++ name ++ "\""
  | .numbered i => toString i

inductive DatabaseError where
  | refused (r : Refusal)
  | noRow
  | unexpectedNull (c : Column)
  | configuration (reason : String)
  deriving DecidableEq, Repr

def DatabaseError.message : DatabaseError → String
  | .refused r => "error returned from database: " ++ r.message
  | .noRow => "no rows returned by a query that expected to return at least one row"
  | .unexpectedNull c =>
    "error occurred while decoding column " ++ c.describe
      ++ ": unexpected null; try decoding as an `Option`"
  | .configuration reason => "error with configuration: " ++ reason

inductive StoreError where
  | data (e : Email.Invalid)
  | emailTaken (email : Email)
  | unknownAuthor (author : UserId)
  | database (e : DatabaseError)
  deriving DecidableEq

def StoreError.message : StoreError → String
  | .data e => "An object in the store was invalid: " ++ e.message
  | .emailTaken email => "A user with email " ++ email.text ++ " already exists"
  | .unknownAuthor author => "Author with id " ++ toString author ++ " does not exist"
  | .database e => e.message

end Bulletin
