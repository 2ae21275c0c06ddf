import Bulletin.Time.Calendar

namespace Bulletin

/-- Nanoseconds since the start of 1970 in universal time, and an offset in minutes. -/
structure Timestamp where
  instant : Int
  offset : Int
  deriving DecidableEq, Repr

namespace Timestamp

def dayLength : Int := 86400 * 1_000_000_000

def clock (t : Timestamp) : Int := t.instant + t.offset * 60_000_000_000

def date (t : Timestamp) : Date := .ofDays (t.clock / dayLength)

def timeOfDay (t : Timestamp) : Nat := (t.clock % dayLength).toNat

def ofLocal (date : Date) (timeOfDay : Nat) (offset : Int) : Timestamp :=
  ⟨date.toDays * dayLength + timeOfDay - offset * 60_000_000_000, offset⟩

/-- The reading of the clock, or a microsecond after `previous` if the clock has not passed it. -/
def after (previous now : Timestamp) : Timestamp :=
  if previous.instant < now.instant then now
  else { previous with instant := previous.instant + 1000 }

theorem lt_after (previous now : Timestamp) : previous.instant < (after previous now).instant := by
  unfold after
  split
  · assumption
  · exact Int.lt_add_of_pos_right _ (by decide)

end Timestamp

end Bulletin
