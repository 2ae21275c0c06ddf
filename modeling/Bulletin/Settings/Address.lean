import Bulletin.Text.Numeral

namespace Bulletin

inductive Address where
  | v4 (a b c d : UInt8)
  | v6 (groups : List UInt16)
  deriving DecidableEq, Repr

namespace Address

def digit? (base : Nat) (b : UInt8) : Option Nat := (Ascii.hexDigit? b).filter (· < base)

def number (base max : Nat) (input : Bytes) : Option (Nat × Bytes) :=
  let (digits, rest) := input.span fun b => (digit? base b).isSome
  if digits.isEmpty || max < digits.length then none
  else some (digits.foldl (fun n b => base * n + (digit? base b).getD 0) 0, rest)

def octet (input : Bytes) : Option (UInt8 × Bytes) := do
  let (n, rest) ← number 10 3 input
  if 255 < n ∨ (input.head? = some Ascii.zero ∧ input.length - rest.length ≠ 1) then none
  else some (n.toUInt8, rest)

def skip (b : UInt8) : Bytes → Option Bytes
  | c :: rest => if c = b then some rest else none
  | [] => none

def version4 (input : Bytes) : Option (List UInt8 × Bytes) := do
  let (a, rest) ← octet input
  let (b, rest) ← octet (← skip Ascii.point rest)
  let (c, rest) ← octet (← skip Ascii.point rest)
  let (d, rest) ← octet (← skip Ascii.point rest)
  return ([a, b, c, d], rest)

def pair (high low : UInt8) : UInt16 := high.toUInt16 * 256 + low.toUInt16

def groups : Nat → Bool → Bytes → List UInt16 × Bool × Bytes
  | 0, _, input => ([], false, input)
  | limit + 1, first, input =>
    match if first then some input else skip Ascii.colon input with
    | none => ([], false, input)
    | some start => match if limit = 0 then none else version4 start with
      | some ([a, b, c, d], rest) => ([pair a b, pair c d], true, rest)
      | _ => match number 16 4 start with
        | none => ([], false, input)
        | some (n, rest) =>
          let (more, embedded, rest) := groups limit false rest
          (n.toUInt16 :: more, embedded, rest)

def version6 (input : Bytes) : Option (List UInt16 × Bytes) :=
  let (head, embedded, rest) := groups 8 true input
  if head.length = 8 then some (head, rest)
  else if embedded then none
  else match rest with
    | Ascii.colon :: Ascii.colon :: rest =>
      let (tail, _, rest) := groups (7 - head.length) true rest
      some (head ++ List.replicate (8 - head.length - tail.length) 0 ++ tail, rest)
    | _ => none

def version6? (input : Bytes) : Option Address :=
  match version6 input with
  | some (gs, []) => some (.v6 gs)
  | _ => none

def ofText? (s : String) : Option Address :=
  match version4 (utf8 s) with
  | some ([a, b, c, d], []) => some (.v4 a b c d)
  | some _ => none
  | none => version6? (utf8 s)

def dotted (octets : List UInt8) : String := ".".intercalate (octets.map fun o => toString o.toNat)

def colons (gs : List UInt16) : String :=
  ":".intercalate (gs.map fun g => .ofList (Nat.toDigits 16 g.toNat))

def longestZeros (i : Nat) : List UInt16 → Nat × Nat
  | [] => (i, 0)
  | g :: gs =>
    let here := ((g :: gs).takeWhile (· == 0)).length
    let later := longestZeros (i + 1) gs
    if here < later.2 then later else (i, here)

def toText : Address → String
  | .v4 a b c d => dotted [a, b, c, d]
  | .v6 [0, 0, 0, 0, 0, 0xFFFF, ab, cd] =>
    "::ffff:" ++ dotted [(ab / 256).toUInt8, ab.toUInt8, (cd / 256).toUInt8, cd.toUInt8]
  | .v6 gs =>
    let (start, length) := longestZeros 0 gs
    if 1 < length then colons (gs.take start) ++ "::" ++ colons (gs.drop (start + length))
    else colons gs

end Address

end Bulletin
