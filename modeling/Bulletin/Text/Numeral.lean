import Bulletin.Text.Ascii
import Bulletin.Text.Utf8

namespace Bulletin.Numeral

def isDigit (b : UInt8) : Bool := (Char.ofUInt8 b).isDigit

def digit (b : UInt8) : Nat := b.toNat - 48

def value (digits : Bytes) : Nat := digits.foldl (fun n d => 10 * n + digit d) 0

def write (n : Nat) : Bytes := (Nat.toDigits 10 n).map Char.toUInt8

def padded (width n : Nat) : Bytes :=
  let digits := write n
  List.replicate (width - digits.length) Ascii.zero ++ digits

def hexDigit (n : UInt8) : UInt8 := if n < 10 then n + 48 else n + 87

def read? (bytes : Bytes) : Option Nat :=
  if bytes.isEmpty || !bytes.all isDigit then none else some (value bytes)

def ofText? (bound : Nat) (s : String) : Option Nat :=
  let digits := match utf8 s with
    | Ascii.plus :: rest => rest
    | bytes => bytes
  (read? digits).filter (· < bound)

def Denotes (s : String) (n : Nat) : Prop :=
  ∃ digits : List Char, digits ≠ [] ∧ (∀ c ∈ digits, c.isDigit) ∧
    s.toList ∈ [digits, '+' :: digits] ∧ Nat.ofDigitChars 10 digits 0 = n

/-- The decimal digits of `n`, with no zero in front of others and no sign. -/
structure Canonical (s : String) (n : Nat) : Prop where
  nonempty : s ≠ ""
  digits : ∀ c ∈ s.toList, c.isDigit
  unpadded : s.toList.head? = some '0' → s = "0"
  value : Nat.ofDigitChars 10 s.toList 0 = n

end Bulletin.Numeral
