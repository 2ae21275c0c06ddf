/-!
The shortest decimal that reads back as a given floating point number.

A positive finite number is `m · 2 ^ q`. The reals that round to it form an interval whose ends
belong to it iff `m` is even. `Shortest.of` takes the coarsest decimal grid with a point in the
interval, and of two such points the nearer.
-/

namespace Bulletin

structure Decimal where
  digits : Nat
  exponent : Int
  deriving DecidableEq, Repr

namespace Decimal

def strip (d : Decimal) : Decimal := go d.digits d
where
  go : Nat → Decimal → Decimal
    | 0, d => d
    | n + 1, d =>
      if d.digits ≠ 0 ∧ d.digits % 10 = 0 then go n ⟨d.digits / 10, d.exponent + 1⟩ else d

end Decimal

namespace Shortest

structure Interval where
  low : Nat
  mid : Nat
  high : Nat
  den : Nat
  closed : Bool

/-- The neighbour below is half as far away at a power of two. -/
def Interval.of (m : Nat) (q : Int) (power : Bool) : Interval :=
  let up := Nat.pow 2 (q - 2).toNat
  { low := (4 * m - if power then 1 else 2) * up
    mid := 4 * m * up
    high := (4 * m + 2) * up
    den := Nat.pow 2 (2 - q).toNat
    closed := m % 2 == 0 }

def Interval.scale (i : Interval) (e : Int) : Interval :=
  let up := Nat.pow 10 (-e).toNat
  ⟨i.low * up, i.mid * up, i.high * up, i.den * Nat.pow 10 e.toNat, i.closed⟩

def Interval.contains (i : Interval) (n : Nat) : Bool :=
  let x := n * i.den
  if i.closed then i.low ≤ x && x ≤ i.high else i.low < x && x < i.high

def Interval.whole? (i : Interval) : Option Nat :=
  let n := i.mid / i.den
  match i.contains n, i.contains (n + 1) with
  | true, true =>
    let below := i.mid - n * i.den
    let above := (n + 1) * i.den - i.mid
    some (if below < above ∨ (below = above ∧ n % 2 = 0) then n else n + 1)
  | true, false => some n
  | false, true => some (n + 1)
  | false, false => none

def Interval.magnitude (i : Interval) (guess : Int) : Int :=
  let reaches (k : Int) : Bool := i.den * Nat.pow 10 k.toNat ≤ i.mid * Nat.pow 10 (-k).toNat
  if reaches (guess + 1) then guess + 1 else if reaches guess then guess else guess - 1

def Interval.shortest (i : Interval) (magnitude : Int) : Decimal :=
  go 17 magnitude
where
  go : Nat → Int → Decimal
    | 0, e => ⟨(i.scale e).mid / (i.scale e).den, e⟩
    | n + 1, e => match (i.scale e).whole? with
      | some d => ⟨d, e⟩
      | none => go n (e - 1)

def of (x : Float) : Decimal :=
  let bits := x.toBits.toNat
  let hidden := 1 <<< 52
  let fraction := bits % hidden
  let biased := bits / hidden % 2048
  let m := if biased = 0 then fraction else fraction + hidden
  let q : Int := (max biased 1 : Nat) - 1075
  let i := Interval.of m q (fraction == 0 && biased > 1)
  (i.shortest (i.magnitude ((q + m.log2) * 30103 / 100000))).strip

end Shortest

end Bulletin
