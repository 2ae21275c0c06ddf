import Bulletin.Decimal.Shortest
import Bulletin.Text.Quoted

/-!
JSON values and how messages name them.

An object keeps its members as they were written. A name stands for its last member, so writing
one object after another is the union in which the second wins.
-/

namespace Bulletin

/-- Whole numbers beyond 64 bits, and minus zero, are floating point numbers. -/
inductive Number where
  | natural (n : UInt64)
  | negative (magnitude : Nat)
  | float (x : Float)
  deriving DecidableEq

inductive Json where
  | null
  | flag (b : Bool)
  | number (n : Number)
  | text (s : String)
  | sequence (items : List Json)
  | object (members : List (String × Json))

namespace Json

abbrev Members := List (String × Json)

def Members.get? (members : Members) (name : String) : Option Json := members.reverse.lookup name

theorem Members.get?_append (a b : Members) (name : String) :
    Members.get? (a ++ b) name = (Members.get? b name).or (Members.get? a name) := by
  simp [Members.get?, List.lookup_append]

inductive Token where
  | null
  | flag (b : Bool)
  | number (n : Number)
  | text (s : String)
  | sequence
  | object
  deriving DecidableEq

def token : Json → Token
  | .null => .null
  | .flag b => .flag b
  | .number n => .number n
  | .text s => .text s
  | .sequence _ => .sequence
  | .object _ => .object

end Json

namespace Decimal

def zeros (n : Nat) : List Char := List.replicate n '0'

def toText (d : Decimal) : String :=
  let digits := Nat.toDigits 10 d.digits
  let point := digits.length + d.exponent
  if -5 < point ∧ point ≤ 16 then
    if 0 ≤ d.exponent then .ofList (digits ++ zeros d.exponent.toNat ++ ['.', '0'])
    else if 0 < point then .ofList (digits.take point.toNat ++ '.' :: digits.drop point.toNat)
    else .ofList ('0' :: '.' :: zeros (-point).toNat ++ digits)
  else
    let fraction := if digits.length = 1 then [] else '.' :: digits.drop 1
    let sign := if point ≤ 0 then '-' else '+'
    .ofList (digits.take 1 ++ fraction ++ 'e' :: sign :: Nat.toDigits 10 (point - 1).natAbs)

end Decimal

namespace Number

def floatText (x : Float) : String :=
  let sign := if x.toBits.toNat.testBit 63 then "-" else ""
  if x == 0 then sign ++ "0.0" else sign ++ (Shortest.of x.abs).toText

def describe : Number → String
  | .natural n => "integer `" ++ toString n.toNat ++ "`"
  | .negative m => "integer `-" ++ toString m ++ "`"
  | .float x => "floating point `" ++ floatText x ++ "`"

end Number

namespace Json

def Token.describe : Token → String
  | .null => "null"
  | .flag b => "boolean `" ++ toString b ++ "`"
  | .number n => n.describe
  | .text s => "string " ++ Text.quoted s
  | .sequence => "sequence"
  | .object => "map"

end Json

end Bulletin
