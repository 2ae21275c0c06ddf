import Bulletin.Domain.Name
import Bulletin.Settings.Address
import Bulletin.Text.Percent

namespace Bulletin.Url

inductive Fault where
  | relative
  | emptyHost
  | port
  | version4
  | version6
  | hostCharacter
  | domain
  deriving DecidableEq, Repr

def Fault.message : Fault → String
  | .relative => "relative URL without a base"
  | .emptyHost => "empty host"
  | .port => "invalid port number"
  | .version4 => "invalid IPv4 address"
  | .version6 => "invalid IPv6 address"
  | .hostCharacter => "invalid domain character"
  | .domain => "invalid international domain name"

inductive Host where
  | domain (labels : List Domain.Label)
  | version4 (n : Nat)
  | version6 (address : Address)
  | text (s : String)
  deriving DecidableEq, Repr

namespace Host

def version4Bound : Nat := UInt32.size

def digits? (base : Nat) (cs : List Char) : Option Nat :=
  cs.foldlM (fun n c => do return min version4Bound (base * n + (← Address.digit? base c.toUInt8))) 0

/-- A part of a number. A zero in front makes it octal, `0x` hexadecimal. -/
def part? : List Char → Option Nat
  | [] => none
  | '0' :: 'x' :: cs => digits? 16 cs
  | '0' :: c :: cs => digits? 8 (c :: cs)
  | cs => digits? 10 cs

def withoutRoot (labels : List Domain.Label) : List Domain.Label :=
  if labels.getLast? = some [] then labels.dropLast else labels

def endsInNumber (labels : List Domain.Label) : Bool :=
  match (withoutRoot labels).getLast? with
  | some label => (!label.isEmpty && label.all Char.isDigit) || (part? label).isSome
  | none => false

def version4? (labels : List Domain.Label) : Option Nat := do
  let labels := withoutRoot labels
  if 4 < labels.length then none
  let parts ← labels.mapM part?
  let last ← parts.getLast?
  let others := parts.dropLast
  if others.any (255 < ·) || version4Bound / Nat.pow 256 others.length ≤ last then none
  else some (others.foldr (fun n rest => n * 16_777_216 + rest / 256) 0 + last)

def bracketed (inner : List Char) : Except Fault Host :=
  match inner.reverse with
  | ']' :: address => match Address.version6? (utf8 (.ofList address.reverse)) with
    | some address => .ok (.version6 address)
    | none => .error .version6
  | _ => .error .version6

def ofDomain : List Char → Except Fault Host
  | '[' :: inner => bracketed inner
  | cs => match (ofUtf8? (Percent.decode (utf8 (.ofList cs)))).bind (Domain.labels? ·.toList) with
    | none => .error .domain
    | some [[]] => .error .emptyHost
    | some labels =>
      if endsInNumber labels then match version4? labels with
        | some n => .ok (.version4 n)
        | none => .error .version4
      else .ok (.domain labels)

def isForbidden (c : Char) : Bool :=
  ['\x00', '\t', '\n', '\r', ' ', '#', '/', ':', '<', '>', '?', '@', '[', '\\', ']', '^', '|'].elem
    c

def ofText : List Char → Except Fault Host
  | '[' :: inner => bracketed inner
  | cs => if cs.any isForbidden then .error .hostCharacter else .ok (.text (.ofList cs))

end Host

end Bulletin.Url
