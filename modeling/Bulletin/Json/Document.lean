import Bulletin.Json.Lexer

namespace Bulletin.Json

def maxDepth : Nat := 127

namespace Document

def elements (element : Reader α) : Nat → Nat → List α → Reader (List α)
  | 0, _, _, input => .error (.before input .tooDeep)
  | n + 1, i, done, input => match Lexer.nextElement (i == 0) input with
    | .error f => .error f
    | .ok (false, rest) => .ok (done.reverse, rest)
    | .ok (true, rest) => match element rest with
      | .error f => .error (f.within (.index i))
      | .ok (a, rest) => elements element n (i + 1) (a :: done) rest

def members (element : Reader α) : Nat → List (String × α) → Reader (List (String × α))
  | 0, _, input => .error (.before input .tooDeep)
  | n + 1, done, input => match Lexer.nextMember done.isEmpty input with
    | .error f => .error (f.within .unknown)
    | .ok (false, rest) => .ok (done.reverse, rest)
    | .ok (true, rest) => match Literal.read rest with
      | .error f => .error (f.within .unknown)
      | .ok (name, rest) => match Lexer.colon rest with
        | .error f => .error f
        | .ok rest => match element rest with
          | .error f => .error (f.within (.member name))
          | .ok (a, rest) => members element n ((name, a) :: done) rest

def value (size : Nat) : Nat → Reader Json
  | depth, input => match Lexer.token input with
    | .error f => .error f
    | .ok (.null, rest) => .ok (.null, rest)
    | .ok (.flag b, rest) => .ok (.flag b, rest)
    | .ok (.number n, rest) => .ok (.number n, rest)
    | .ok (.text s, rest) => .ok (.text s, rest)
    | .ok (.sequence, rest) => match depth with
      | 0 => .error (.onNext rest .tooDeep)
      | depth + 1 =>
        (elements (value size depth) size 0 [] (rest.drop 1)).map fun (vs, rest) =>
          (.sequence vs, rest)
    | .ok (.object, rest) => match depth with
      | 0 => .error (.onNext rest .tooDeep)
      | depth + 1 =>
        (members (value size depth) size [] (rest.drop 1)).map fun (ms, rest) =>
          (.object ms, rest)

def object (size : Nat) : Reader Members := fun input =>
  match Lexer.token input with
  | .error f => .error f
  | .ok (.object, rest) => members (value size (maxDepth - 1)) size [] (rest.drop 1)
  | .ok (found, rest) => .error (.before rest (.invalidType found "a map"))

def whole (reader : Reader α) (input : Bytes) : Except Error α :=
  match reader input with
  | .error f => .error (.of input f)
  | .ok (a, rest) => match Lexer.endDocument rest with
    | .error f => .error (.of input f)
    | .ok () => .ok a

end Document

def read (input : Bytes) : Except Error Json :=
  Document.whole (Document.value (input.length + 1) maxDepth) input

def readObject (input : Bytes) : Except Error Members :=
  Document.whole (Document.object (input.length + 1)) input

end Bulletin.Json
