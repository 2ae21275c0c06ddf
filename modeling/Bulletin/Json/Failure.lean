import Bulletin.Json.Value
import Bulletin.Text.Ascii
import Bulletin.Text.Utf8

namespace Bulletin.Json

inductive Unfinished where
  | value | list | object | text
  deriving DecidableEq, Repr

inductive Cause where
  | ends (inside : Unfinished)
  | expectedColon
  | expectedListEnd
  | expectedObjectEnd
  | expectedWord
  | expectedValue
  | invalidEscape
  | invalidNumber
  | outOfRange
  | invalidCodePoint
  | controlCharacter
  | keyNotText
  | loneSurrogate
  | unpairedEscape
  | trailingComma
  | trailingCharacters
  | tooDeep
  | invalidType (found : Token) (expected : String)
  | invalidValue (found : Token) (expected : String)
  | invalidLength (found : Nat) (expected : String)
  | missingField (name : String)
  | duplicateField (name : String)
  | refused (reason : String)
  deriving DecidableEq

namespace Cause

def message : Cause → String
  | .ends .value => "EOF while parsing a value"
  | .ends .list => "EOF while parsing a list"
  | .ends .object => "EOF while parsing an object"
  | .ends .text => "EOF while parsing a string"
  | .expectedColon => "expected `:`"
  | .expectedListEnd => "expected `,` or `]`"
  | .expectedObjectEnd => "expected `,` or `\x7d`"
  | .expectedWord => "expected ident"
  | .expectedValue => "expected value"
  | .invalidEscape => "invalid escape"
  | .invalidNumber => "invalid number"
  | .outOfRange => "number out of range"
  | .invalidCodePoint => "invalid unicode code point"
  | .controlCharacter => "control character (\\u0000-\\u001F) found while parsing a string"
  | .keyNotText => "key must be a string"
  | .loneSurrogate => "lone leading surrogate in hex escape"
  | .unpairedEscape => "unexpected end of hex escape"
  | .trailingComma => "trailing comma"
  | .trailingCharacters => "trailing characters"
  | .tooDeep => "recursion limit exceeded"
  | .invalidType found expected =>
    "invalid type: " ++ found.describe ++ ", expected " ++ expected
  | .invalidValue found expected =>
    "invalid value: " ++ found.describe ++ ", expected " ++ expected
  | .invalidLength found expected =>
    "invalid length " ++ toString found ++ ", expected " ++ expected
  | .missingField name => "missing field `" ++ name ++ "`"
  | .duplicateField name => "duplicate field `" ++ name ++ "`"
  | .refused reason => reason

def isData : Cause → Bool
  | .invalidType .. | .invalidValue .. | .invalidLength .. | .missingField _ | .duplicateField _
  | .refused _ => true
  | _ => false

end Cause

inductive Step where
  | member (name : String)
  | index (i : Nat)
  | unknown
  deriving DecidableEq

namespace Step

def isUnknown : Step → Bool
  | .unknown => true
  | _ => false

def pathText : List Step → String
  | [] => ""
  | step :: steps => name step ++ rest steps
where
  name : Step → String
    | .member name => name
    | .index i => "[" ++ toString i ++ "]"
    | .unknown => "?"
  rest : List Step → String
    | [] => ""
    | .index i :: steps => name (.index i) ++ rest steps
    | step :: steps => "." ++ name step ++ rest steps

end Step

/-- A place in a text. One that is pending is set by the object or list around the value, which
puts it behind its own end if that comes next. -/
inductive Place where
  | fixed (left : Nat)
  | pending (rest : Bytes)

/-- `left` in a place counts the bytes from there to the end of the text. -/
structure Failure where
  cause : Cause
  place : Place
  path : List Step := []

namespace Failure

def before (rest : Bytes) (cause : Cause) : Failure :=
  { cause, place := .fixed rest.length }

def onNext (input : Bytes) (cause : Cause) : Failure :=
  { cause, place := .fixed (input.length - 1) }

def within (step : Step) (f : Failure) : Failure := { f with path := step :: f.path }

def settle (close : Bytes → Bytes) (f : Failure) : Failure :=
  match f.place with
  | .fixed _ => f
  | .pending rest => { f with place := .fixed (close rest).length }

end Failure

structure Position where
  line : Nat
  column : Nat
  deriving DecidableEq, Repr

def Position.after (read : Bytes) : Position :=
  ⟨1 + read.count Ascii.newline, (read.reverse.takeWhile (· ≠ Ascii.newline)).length⟩

structure Error where
  cause : Cause
  position : Option Position
  path : List Step
  deriving DecidableEq

namespace Error

def of (input : Bytes) (f : Failure) : Error where
  cause := f.cause
  path := f.path
  position := match f.place with
    | .fixed left => some (.after (input.take (input.length - left)))
    | .pending _ => none

def message (e : Error) : String :=
  match e.position with
  | some p => e.cause.message ++ " at line " ++ toString p.line ++ " column " ++ toString p.column
  | none => e.cause.message

def traced (e : Error) : String :=
  if e.path.all Step.isUnknown then e.message else Step.pathText e.path ++ ": " ++ e.message

end Error

abbrev Reader (α : Type) := Bytes → Except Failure (α × Bytes)

end Bulletin.Json
