import Bulletin.Time.Rfc3339

namespace Bulletin

namespace Calendar

theorem yearStart_mono {a b : Int} (h : a ≤ b) : yearStart a ≤ yearStart b := by
  simp only [yearStart]
  omega

theorem yearStart_yearOf_le (days : Int) : yearStart (yearOf days) ≤ days := by
  simp only [yearOf]
  split
  · simp only [yearStart] at *
    omega
  · split
    · simp only [yearStart] at *
      omega
    · simp only [yearStart] at *
      omega

theorem lt_yearStart_yearOf (days : Int) : days < yearStart (yearOf days + 1) := by
  simp only [yearOf]
  split
  · simpa using ‹_›
  · split
    · assumption
    · simp only [yearStart] at *
      omega

theorem le_yearOf_iff {year days : Int} : year ≤ yearOf days ↔ yearStart year ≤ days := by
  constructor
  · intro h
    exact Int.le_trans (yearStart_mono h) (yearStart_yearOf_le days)
  · intro h
    apply Int.not_lt.1
    intro hlt
    exact Int.lt_irrefl days (Int.lt_of_lt_of_le (lt_yearStart_yearOf days)
      (Int.le_trans (yearStart_mono hlt) h))

end Calendar

namespace Timestamp

def later (n : Nat) (t : Timestamp) : Timestamp := { t with instant := t.instant + 1000 * n }

/-- The year has four digits, even `n` microseconds later. -/
structure Writable (n : Nat) (t : Timestamp) : Prop where
  notBefore : 0 ≤ t.date.year
  notAfter : (t.later n).date.year ≤ 9999

theorem year_nonneg_iff {t : Timestamp} : 0 ≤ t.date.year ↔ -719528 * dayLength ≤ t.clock := by
  change 0 ≤ Calendar.yearOf (t.clock / dayLength + 719528) ↔ _
  rw [Calendar.le_yearOf_iff, Calendar.yearStart, dayLength]
  omega

theorem year_le_iff {t : Timestamp} : t.date.year ≤ 9999 ↔ t.clock < 2932897 * dayLength := by
  change Calendar.yearOf (t.clock / dayLength + 719528) ≤ 9999 ↔ _
  rw [← Int.lt_add_one_iff, ← Int.not_le, Calendar.le_yearOf_iff, Calendar.yearStart, dayLength]
  omega

theorem writable_iff {n : Nat} {t : Timestamp} :
    t.Writable n ↔ -719528 * dayLength ≤ t.clock ∧ t.clock + 1000 * n < 2932897 * dayLength := by
  have hlater : (t.later n).clock = t.clock + 1000 * n := by
    simp only [clock, later]
    omega
  rw [← hlater, ← year_nonneg_iff, ← year_le_iff]
  exact ⟨fun h => ⟨h.notBefore, h.notAfter⟩, fun h => ⟨h.1, h.2⟩⟩

theorem Writable.mono {t : Timestamp} (h : t.Writable n) (hle : k ≤ n) : t.Writable k := by
  rw [writable_iff] at *
  omega

theorem Writable.after {previous now : Timestamp} (hprevious : previous.Writable (n + 1))
    (hnow : now.Writable n) : (previous.after now).Writable n := by
  unfold Timestamp.after
  split
  · exact hnow
  · rw [writable_iff] at *
    simp only [clock] at *
    omega

theorem Writable.write_isSome {t : Timestamp} (h : t.Writable n) : (Rfc3339.write? t).isSome := by
  have hafter := (h.mono (Nat.zero_le n)).notAfter
  rw [show t.later 0 = t by simp [later]] at hafter
  simp [Rfc3339.write?, h.notBefore, hafter]

/-- With a reading of the clock come the reading, and for each time known before, the one after
it. -/
def tick (known : List Timestamp) (now : Timestamp) : List Timestamp :=
  known ++ now :: known.map (·.after now)

def stamped (readings : List Timestamp) : List Timestamp := readings.foldl tick []

section Stamped

variable {t now : Timestamp} {known readings more : List Timestamp}

theorem mem_tick : t ∈ tick known now ↔ t ∈ known ∨ t = now ∨ ∃ s ∈ known, s.after now = t := by
  simp [tick]

theorem mem_foldl_tick (h : t ∈ known) : t ∈ readings.foldl tick known := by
  induction readings generalizing known with
  | nil => exact h
  | cons now readings ih => exact ih (mem_tick.2 (.inl h))

theorem stamped_append : stamped (readings ++ more) = more.foldl tick (stamped readings) :=
  List.foldl_append

theorem mem_stamped_append (h : t ∈ stamped readings) : t ∈ stamped (readings ++ more) := by
  rw [stamped_append]
  exact mem_foldl_tick h

theorem writable_foldl_tick (hknown : ∀ t ∈ known, t.Writable (readings.length + n))
    (hreadings : ∀ now ∈ readings, now.Writable (readings.length + n)) :
    ∀ t ∈ readings.foldl tick known, t.Writable n := by
  induction readings generalizing known with
  | nil => simpa using hknown
  | cons now readings ih =>
    rw [List.length_cons, Nat.succ_add] at hknown hreadings
    have hnow := (hreadings now List.mem_cons_self).mono (Nat.le_succ _)
    apply ih
    · intro t ht
      rcases mem_tick.1 ht with ht | rfl | ⟨s, hs, rfl⟩
      · exact (hknown t ht).mono (Nat.le_succ _)
      · exact hnow
      · exact (hknown s hs).after hnow
    · intro later hlater
      exact (hreadings later (List.mem_cons_of_mem _ hlater)).mono (Nat.le_succ _)

theorem writable_stamped (h : ∀ now ∈ readings, now.Writable readings.length) :
    ∀ t ∈ stamped readings, t.Writable 0 :=
  writable_foldl_tick nofun h

end Stamped

end Timestamp

end Bulletin
