import Bulletin.Json.Failure
import Bulletin.Text.Numeral

namespace Bulletin.Json.Numeral

open Bulletin.Numeral (isDigit digit)

def absorb (significand : Nat) : Bytes → Nat × Nat
  | [] => (significand, 0)
  | d :: ds =>
    let next := 10 * significand + digit d
    if next < UInt64.size then absorb next ds else (significand, ds.length + 1)

def shrink (x : Float) (k : Nat) : Float :=
  if k ≤ 308 then x / Float.ofScientific 1 false k
  else if x == 0 then x
  else shrink (x / Float.ofScientific 1 false 308) (k - 308)
termination_by k

def float? (significand : Nat) (e : Int) : Option Float :=
  let x := significand.toUInt64.toFloat
  if e < 0 then some (shrink x e.natAbs)
  else if 308 < e then if x == 0 then some x else none
  else
    let y := x * Float.ofScientific 1 false e.toNat
    if y.isInf then none else some y

def signed (negative : Bool) (x : Float) : Number := .float (if negative then -x else x)

def inexact (negative : Bool) (significand : Nat) (e : Int) (rest : Bytes) :
    Except Failure (Number × Bytes) :=
  match float? significand e with
  | some x => .ok (signed negative x, rest)
  | none => .error (.before rest .outOfRange)

def beyond (bound n : Nat) : Bytes → Option Bytes
  | [] => none
  | d :: ds => if bound < 10 * n + digit d then some ds else beyond bound (10 * n + digit d) ds

/-- Reads an exponent whose letter has been read. One of more than 31 bits makes a number zero, or
too large. -/
def exponent (negative : Bool) (significand : Nat) (e : Int) (input : Bytes) :
    Except Failure (Number × Bytes) :=
  let (down, input) := match input with
    | Ascii.plus :: rest => (false, rest)
    | Ascii.dash :: rest => (true, rest)
    | _ => (false, input)
  let (digits, rest) := input.span isDigit
  if digits.isEmpty then
    match rest with
    | [] => .error (.before [] (.ends .value))
    | _ :: rest => .error (.before rest .invalidNumber)
  else match beyond (UInt32.size / 2 - 1) 0 digits with
    | some unread =>
      if significand ≠ 0 ∧ !down then .error (.before (unread ++ rest) .outOfRange)
      else .ok (signed negative 0, rest)
    | none =>
      let n : Int := Bulletin.Numeral.value digits
      inexact negative significand (if down then e - n else e + n) rest

def isExponentMark (b : UInt8) : Bool := Ascii.lower b == 'e'.toUInt8

def continuation (negative : Bool) (significand dropped : Nat) (input : Bytes) :
    Except Failure (Number × Bytes) :=
  match input with
  | Ascii.point :: input =>
    let (digits, rest) := input.span isDigit
    if digits.isEmpty then
      match input with
      | [] => .error (.before [] (.ends .value))
      | _ => .error (.onNext input .invalidNumber)
    else
      let (significand, lost) := absorb significand digits
      let e : Int := dropped - (digits.length - lost : Nat)
      match rest with
      | [] => inexact negative significand e rest
      | b :: rest' =>
        if isExponentMark b then exponent negative significand e rest'
        else inexact negative significand e rest
  | [] => whole input
  | b :: rest =>
    if isExponentMark b then exponent negative significand dropped rest else whole input
where
  whole (rest : Bytes) : Except Failure (Number × Bytes) :=
    if dropped ≠ 0 then inexact negative significand dropped rest
    else if !negative then .ok (.natural significand.toUInt64, rest)
    else if significand = 0 ∨ UInt64.size / 2 < significand then inexact true significand 0 rest
    else .ok (.negative significand, rest)

def read (negative : Bool) (input : Bytes) : Except Failure (Number × Bytes) :=
  match input with
  | [] => .error (.before [] (.ends .value))
  | b :: rest =>
    if !isDigit b then .error (.before rest .invalidNumber)
    else if b = Ascii.zero then
      match rest with
      | [] => continuation negative 0 0 []
      | d :: _ =>
        if isDigit d then .error (.onNext rest .invalidNumber) else continuation negative 0 0 rest
    else
      let (digits, rest) := input.span isDigit
      let (significand, dropped) := absorb 0 digits
      continuation negative significand dropped rest

def skipExponent (input : Bytes) : Except Failure Bytes :=
  let input := match input with
    | Ascii.plus :: rest | Ascii.dash :: rest => rest
    | _ => input
  match input with
  | [] => .error (.before [] .invalidNumber)
  | b :: rest =>
    if isDigit b then .ok (rest.dropWhile isDigit) else .error (.before rest .invalidNumber)

def skipFraction : Bytes → Except Failure Bytes
  | Ascii.point :: input =>
    let (digits, rest) := input.span isDigit
    if digits.isEmpty then .error (.onNext input .invalidNumber)
    else match rest with
      | [] => .ok []
      | b :: rest' => if isExponentMark b then skipExponent rest' else .ok rest
  | [] => .ok []
  | b :: rest => if isExponentMark b then skipExponent rest else .ok (b :: rest)

def skip : Bytes → Except Failure Bytes
  | [] => .error (.before [] .invalidNumber)
  | b :: rest =>
    if !isDigit b then .error (.before rest .invalidNumber)
    else if b = Ascii.zero then
      match rest with
      | [] => .ok []
      | d :: _ => if isDigit d then .error (.onNext rest .invalidNumber) else skipFraction rest
    else skipFraction (rest.dropWhile isDigit)

end Bulletin.Json.Numeral
