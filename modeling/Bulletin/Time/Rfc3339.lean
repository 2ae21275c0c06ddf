import Bulletin.Text.Ascii
import Bulletin.Text.Numeral
import Bulletin.Time.Timestamp

/-!
The text of a timestamp, such as `2025-10-24T12:30:00.5+02:00`.

Writing fails for local years without four digits. Reading takes any byte between date and time,
any number of digits after the point, of which nine count, and a sixtieth second where a leap
second may stand; it is kept as the last nanosecond before.
-/

namespace Bulletin.Rfc3339

inductive Component where
  | year | month | day | separator | hour | minute | second | subsecond | offsetHour | offsetMinute
  deriving DecidableEq, Repr

def Component.name : Component → String
  | .year => "year"
  | .month => "month"
  | .day => "day"
  | .separator => "separator"
  | .hour => "hour"
  | .minute => "minute"
  | .second => "second"
  | .subsecond => "subsecond"
  | .offsetHour => "offset hour"
  | .offsetMinute => "offset minute"

inductive Fault where
  | unread (c : Component)
  | literal
  | trailing
  | range (c : Component)
  deriving DecidableEq, Repr

def Fault.message : Fault → String
  | .unread c => "the '" ++ c.name ++ "' component could not be parsed"
  | .literal => "a character literal was not valid"
  | .trailing => "unexpected trailing characters; the end of input was expected"
  | .range c => c.name ++ " was not in range"

def fraction (nanos : Nat) : Bytes :=
  if nanos = 0 then []
  else Ascii.point :: ((Numeral.padded 9 nanos).reverse.dropWhile (· == Ascii.zero)).reverse

def zone (offset : Int) : Bytes :=
  if offset = 0 then utf8 "Z"
  else (if offset < 0 then Ascii.dash else Ascii.plus) ::
    (Numeral.padded 2 (offset.natAbs / 60) ++ Ascii.colon :: Numeral.padded 2 (offset.natAbs % 60))

def write? (t : Timestamp) : Option Bytes :=
  let d := t.date
  let s := t.timeOfDay / 1_000_000_000
  if 0 ≤ d.year ∧ d.year ≤ 9999 then
    some (Numeral.padded 4 d.year.toNat ++ Ascii.dash :: Numeral.padded 2 d.month
      ++ Ascii.dash :: Numeral.padded 2 d.day ++ utf8 "T" ++ Numeral.padded 2 (s / 3600)
      ++ Ascii.colon :: Numeral.padded 2 (s / 60 % 60) ++ Ascii.colon :: Numeral.padded 2 (s % 60)
      ++ fraction (t.timeOfDay % 1_000_000_000) ++ zone t.offset)
  else none

def unwritable : String := "The year component cannot be formatted into the requested format."

def digits (c : Component) (n : Nat) (input : Bytes) : Except Fault (Nat × Bytes) :=
  let ds := input.take n
  if ds.length = n ∧ ds.all Numeral.isDigit then .ok (Numeral.value ds, input.drop n)
  else .error (.unread c)

def literal (b : UInt8) : Bytes → Except Fault Bytes
  | c :: rest => if c = b then .ok rest else .error .literal
  | [] => .error .literal

def separator : Bytes → Except Fault Bytes
  | _ :: rest => .ok rest
  | [] => .error (.unread .separator)

def subsecond : Bytes → Except Fault (Nat × Bytes)
  | Ascii.point :: rest =>
    let ds := rest.takeWhile Numeral.isDigit
    if ds.isEmpty then .error (.unread .subsecond)
    else
      let nanos := (ds ++ List.replicate 9 Ascii.zero).take 9
      .ok (Numeral.value nanos, rest.dropWhile Numeral.isDigit)
  | input => .ok (0, input)

def require (c : Component) (holds : Bool) : Except Fault Unit :=
  if holds then .ok () else .error (.range c)

def signed (sign : Int) (input : Bytes) : Except Fault (Int × Bytes) := do
  let (hour, input) ← digits .offsetHour 2 input
  if 23 < hour then throw (.unread .offsetHour)
  let input ← literal Ascii.colon input
  let (minute, input) ← digits .offsetMinute 2 input
  require .offsetMinute (minute < 60)
  return (sign * (hour * 60 + minute), input)

def offset : Bytes → Except Fault (Int × Bytes)
  | Ascii.plus :: rest => signed 1 rest
  | Ascii.dash :: rest => signed (-1) rest
  | b :: rest => if Ascii.lower b = 122 then .ok (0, rest) else .error (.unread .offsetHour)
  | [] => .error (.unread .offsetHour)

/-- Whether a time is the last nanosecond of a month in universal time. -/
def endsMonth (t : Timestamp) : Bool :=
  let utc : Timestamp := ⟨t.instant, 0⟩
  utc.timeOfDay == 86400 * 1_000_000_000 - 1 &&
    utc.date.day == Calendar.monthLength (Calendar.isLeap utc.date.year) utc.date.month

def read (input : Bytes) : Except Fault Timestamp := do
  let (year, input) ← digits .year 4 input
  let input ← literal Ascii.dash input
  let (month, input) ← digits .month 2 input
  if month = 0 then throw (.unread .month)
  let input ← literal Ascii.dash input
  let (day, input) ← digits .day 2 input
  let input ← separator input
  let (hour, input) ← digits .hour 2 input
  let input ← literal Ascii.colon input
  let (minute, input) ← digits .minute 2 input
  let input ← literal Ascii.colon input
  let (second, input) ← digits .second 2 input
  let (nanos, input) ← subsecond input
  let (offset, input) ← offset input
  if !input.isEmpty then throw .trailing
  let leap := second == 60
  let (second, nanos) := if leap then (59, 999999999) else (second, nanos)
  let date : Date := ⟨year, month, day⟩
  require .month (month ≤ 12)
  require .day date.isValid
  require .hour (hour < 24)
  require .minute (minute < 60)
  require .second (second < 60)
  let t := Timestamp.ofLocal date (((hour * 60 + minute) * 60 + second) * 1_000_000_000 + nanos) offset
  require .second (!leap || endsMonth t)
  return t

end Bulletin.Rfc3339
