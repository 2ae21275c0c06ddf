namespace Bulletin.Domain.Punycode

def digit? (c : Char) : Option Nat :=
  if c.isLower then some (c.toNat - 'a'.toNat)
  else if c.isDigit then some (c.toNat - '0'.toNat + 26)
  else none

def threshold (k bias : Nat) : Nat :=
  if k ≤ bias then 1 else if bias + 26 ≤ k then 26 else k - bias

def adaptFrom (delta k : Nat) : Nat :=
  if 455 < delta then adaptFrom (delta / 35) (k + 36) else k + 36 * delta / (delta + 38)
termination_by delta

def adapt (delta size : Nat) (first : Bool) : Nat :=
  let delta := if first then delta / 700 else delta / 2
  adaptFrom (delta + delta / size) 0

structure Progress where
  text : List Char
  code : Nat := 128
  place : Nat := 0
  bias : Nat := 72

structure Numeral where
  k : Nat := 36
  weight : Nat := 1
  value : Nat

def limit : Nat := UInt32.size

def Progress.insert (p : Progress) (value : Nat) : Option Progress :=
  let size := p.text.length + 1
  let code := p.code + value / size
  let place := value % size
  if code.isValidChar then
    some {
      text := p.text.insertIdx place (Char.ofNat code)
      code, place := place + 1
      bias := adapt (value - p.place) size (p.place = 0) }
  else none

def extend (p : Progress) : Option Numeral → List Char → Option (List Char)
  | none, [] => some p.text
  | some _, [] => none
  | begun, c :: cs => do
    let n := begun.getD { value := p.place }
    let d ← digit? c
    let value := n.value + d * n.weight
    let t := threshold n.k p.bias
    if limit ≤ value then none
    else if d < t then extend (← p.insert value) none cs
    else if limit ≤ n.weight * (36 - t) then none
    else extend p (some ⟨n.k + 36, n.weight * (36 - t), value⟩) cs

def split (cs : List Char) : List Char × List Char :=
  match cs.reverse.span (· ≠ '-') with
  | (rest, _ :: text@(_ :: _)) => (text.reverse, rest.reverse)
  | _ => ([], cs)

def decode? (cs : List Char) : Option (List Char) :=
  let (text, numbers) := split cs
  extend { text } none numbers

end Bulletin.Domain.Punycode
