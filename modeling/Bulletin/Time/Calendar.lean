namespace Bulletin

structure Date where
  year : Int
  month : Nat
  day : Nat
  deriving DecidableEq, Repr

namespace Calendar

def isLeap (year : Int) : Bool := year % 4 == 0 && (year % 100 != 0 || year % 400 == 0)

/-- The days from the start of the year 0 to the start of `year`. -/
def yearStart (year : Int) : Int :=
  365 * year + (year + 3) / 4 - (year + 99) / 100 + (year + 399) / 400

def monthLength (leap : Bool) : Nat → Nat
  | 2 => if leap then 29 else 28
  | 4 | 6 | 9 | 11 => 30
  | _ => 31

def monthStart (leap : Bool) (month : Nat) : Nat :=
  (List.range (month - 1)).foldl (fun days m => days + monthLength leap (m + 1)) 0

def yearOf (days : Int) : Int :=
  let guess := days * 400 / 146097
  if days < yearStart guess then guess - 1
  else if days < yearStart (guess + 1) then guess
  else guess + 1

def monthOf (leap : Bool) (n : Nat) : Nat × Nat :=
  go 11 1 n
where
  go : Nat → Nat → Nat → Nat × Nat
    | 0, month, n => (month, n + 1)
    | k + 1, month, n =>
      let length := monthLength leap month
      if n < length then (month, n + 1) else go k (month + 1) (n - length)

end Calendar

namespace Date

open Calendar

def isValid (d : Date) : Bool :=
  1 ≤ d.month && d.month ≤ 12 && 1 ≤ d.day && d.day ≤ monthLength (isLeap d.year) d.month

def toDays (d : Date) : Int :=
  yearStart d.year + monthStart (isLeap d.year) d.month + d.day - 1 - 719528

def ofDays (days : Int) : Date :=
  let n := days + 719528
  let year := yearOf n
  let (month, day) := monthOf (isLeap year) (n - yearStart year).toNat
  ⟨year, month, day⟩

end Date

end Bulletin
