import Bulletin.Json.Literal
import Bulletin.Json.Numeral

namespace Bulletin.Json.Lexer

def isBlank (b : UInt8) : Bool :=
  b == Ascii.space || b == Ascii.newline || b == Ascii.tab || b == Ascii.carriageReturn

def skipBlanks (input : Bytes) : Bytes := input.dropWhile isBlank

def word : List Char → Bytes → Except Failure Bytes
  | [], rest => .ok rest
  | _ :: _, [] => .error (.before [] (.ends .value))
  | c :: cs, b :: rest =>
    if b = c.toUInt8 then word cs rest else .error (.before rest .expectedWord)

def token : Reader Token := fun input =>
  match skipBlanks input with
  | [] => .error (.before [] (.ends .value))
  | b :: rest => match Char.ofUInt8 b with
    | 'n' => (word ['u', 'l', 'l'] rest).map (.null, ·)
    | 't' => (word ['r', 'u', 'e'] rest).map (.flag true, ·)
    | 'f' => (word ['a', 'l', 's', 'e'] rest).map (.flag false, ·)
    | '"' => (Literal.read rest).map fun (s, rest) => (.text s, rest)
    | '-' => number true rest
    | '[' => .ok (.sequence, b :: rest)
    | '{' => .ok (.object, b :: rest)
    | _ =>
      if Bulletin.Numeral.isDigit b then number false (b :: rest)
      else .error (.before rest .expectedValue)
where
  number (negative : Bool) : Reader Token := fun input =>
    (Numeral.read negative input).map fun (n, rest) => (.number n, rest)

def nextElement (first : Bool) : Reader Bool := fun input =>
  match skipBlanks input with
  | [] => .error (.before [] (.ends .list))
  | Ascii.closeBracket :: rest => .ok (false, rest)
  | b :: rest =>
    if first then .ok (true, b :: rest)
    else if b = Ascii.comma then
      match skipBlanks rest with
      | [] => .error (.before [] (.ends .value))
      | Ascii.closeBracket :: rest => .error (.before rest .trailingComma)
      | rest => .ok (true, rest)
    else .error (.before rest .expectedListEnd)

def nextMember (first : Bool) : Reader Bool := fun input =>
  match skipBlanks input with
  | [] => .error (.before [] (.ends .object))
  | Ascii.closeBrace :: rest => .ok (false, rest)
  | b :: rest =>
    if first then
      if b = Ascii.quote then .ok (true, rest) else .error (.before rest .keyNotText)
    else if b = Ascii.comma then
      match skipBlanks rest with
      | [] => .error (.before [] (.ends .value))
      | Ascii.quote :: rest => .ok (true, rest)
      | Ascii.closeBrace :: rest => .error (.before rest .trailingComma)
      | _ :: rest => .error (.before rest .keyNotText)
    else .error (.before rest .expectedObjectEnd)

def colon (input : Bytes) : Except Failure Bytes :=
  match skipBlanks input with
  | Ascii.colon :: rest => .ok rest
  | _ :: rest => .error (.before rest .expectedColon)
  | [] => .error (.before [] (.ends .object))

def endList (input : Bytes) : Except Failure Bytes :=
  match skipBlanks input with
  | Ascii.closeBracket :: rest => .ok rest
  | Ascii.comma :: rest => match skipBlanks rest with
    | Ascii.closeBracket :: rest => .error (.before rest .trailingComma)
    | rest => .error (.onNext rest .trailingCharacters)
  | _ :: rest => .error (.before rest .trailingCharacters)
  | [] => .error (.before [] (.ends .list))

def closeList (input : Bytes) : Bytes :=
  match skipBlanks input with
  | Ascii.closeBracket :: rest => rest
  | Ascii.comma :: rest => skipBlanks rest
  | rest => rest

def closeObject (input : Bytes) : Bytes :=
  match skipBlanks input with
  | Ascii.closeBrace :: rest => rest
  | rest => rest

def endDocument (input : Bytes) : Except Failure Unit :=
  match skipBlanks input with
  | [] => .ok ()
  | _ :: rest => .error (.before rest .trailingCharacters)

inductive Frame where
  | list | object
  deriving DecidableEq

def Frame.closes : Frame → UInt8 → Bool
  | .list, b => b == Ascii.closeBracket
  | .object, b => b == Ascii.closeBrace

def Frame.unfinished : Frame → Unfinished
  | .list => .list
  | .object => .object

def Frame.expected : Frame → Cause
  | .list => .expectedListEnd
  | .object => .expectedObjectEnd

def enter (input : Bytes) : Frame → Except Failure Bytes
  | .list => .ok input
  | .object => match skipBlanks input with
    | [] => .error (.before [] (.ends .object))
    | Ascii.quote :: rest => Literal.skip .plain rest >>= colon
    | _ :: rest => .error (.before rest .keyNotText)

inductive Stage where
  | value | following
  deriving DecidableEq

/-- Passes over a value without regard to its depth. Each step takes a byte at least. -/
def skip : Nat → Stage → List Frame → Bytes → Except Failure Bytes
  | 0, _, _, rest => .error (.before rest .tooDeep)
  | _ + 1, .following, [], rest => .ok rest
  | n + 1, .following, frame :: frames, input => match skipBlanks input with
    | [] => .error (.before [] (.ends frame.unfinished))
    | b :: rest =>
      if frame.closes b then skip n .following frames rest
      else if b = Ascii.comma then enter rest frame >>= skip n .value (frame :: frames)
      else .error (.before rest frame.expected)
  | n + 1, .value, frames, input => match skipBlanks input with
    | [] => .error (.before [] (.ends .value))
    | b :: rest => match Char.ofUInt8 b with
      | 'n' => word ['u', 'l', 'l'] rest >>= skip n .following frames
      | 't' => word ['r', 'u', 'e'] rest >>= skip n .following frames
      | 'f' => word ['a', 'l', 's', 'e'] rest >>= skip n .following frames
      | '"' => Literal.skip .plain rest >>= skip n .following frames
      | '-' => Numeral.skip rest >>= skip n .following frames
      | '[' => begin n .list frames rest
      | '{' => begin n .object frames rest
      | _ =>
        if Bulletin.Numeral.isDigit b then Numeral.skip (b :: rest) >>= skip n .following frames
        else .error (.before rest .expectedValue)
where
  begin (n : Nat) (frame : Frame) (frames : List Frame) (input : Bytes) : Except Failure Bytes :=
    match skipBlanks input with
    | [] => .error (.before [] (.ends frame.unfinished))
    | b :: rest =>
      if frame.closes b then skip n .following frames rest
      else enter (b :: rest) frame >>= skip n .value (frame :: frames)

end Bulletin.Json.Lexer
