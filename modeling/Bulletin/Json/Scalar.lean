import Bulletin.Json.Document

namespace Bulletin.Json

/-- A refusal by a late scalar has its place where the object or list around it ends. -/
structure Scalar (α : Type) where
  accept : Token → Except Cause α
  late : Bool := false

namespace Scalar

def text : Scalar String where
  accept
    | .text s => .ok s
    | found => .error (.invalidType found "a string")

def flag : Scalar Bool where
  accept
    | .flag b => .ok b
    | found => .error (.invalidType found "a boolean")

def natural : Scalar UInt64 where
  accept
    | .number (.natural n) => .ok n
    | .number (.negative m) => .error (.invalidValue (.number (.negative m)) "u64")
    | found => .error (.invalidType found "u64")

def map (f : α → β) (s : Scalar α) : Scalar β where
  accept token := (s.accept token).map f
  late := s.late

def ofJson (s : Scalar α) (v : Json) : Except Cause α := s.accept v.token

def read (s : Scalar α) : Reader α := fun input =>
  match Lexer.token input with
  | .error f => .error f
  | .ok (token, rest) => match s.accept token with
    | .ok a => .ok (a, rest)
    | .error (.refused reason) =>
      let place := if s.late then .pending rest else .fixed rest.length
      .error { cause := .refused reason, place }
    | .error cause => .error (.before rest cause)

def decode (s : Scalar α) (input : Bytes) : Except Error α := Document.whole s.read input

end Scalar

end Bulletin.Json
