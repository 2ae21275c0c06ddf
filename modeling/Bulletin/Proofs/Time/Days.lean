import Bulletin.Proofs.Time.Years

namespace Bulletin

namespace Calendar

section Months

variable (leap : Bool)

theorem monthStart_succ (month : Nat) :
    monthStart leap (month + 1 + 1) =
      monthStart leap (month + 1) + monthLength leap (month + 1) := by
  simp [monthStart, List.range_succ]

theorem monthStart_mono {a b : Nat} (h : a ≤ b) : monthStart leap a ≤ monthStart leap b := by
  induction h with
  | refl => exact Nat.le_refl _
  | @step b _ ih =>
    refine Nat.le_trans ih ?_
    cases b with
    | zero => exact Nat.le_refl _
    | succ b =>
      rw [monthStart_succ]
      exact Nat.le_add_right _ _

theorem monthStart_thirteen : monthStart leap 13 = 365 + leap.toNat := by
  cases leap <;> rfl

theorem monthLength_le (month : Nat) : monthLength leap month ≤ 31 := by
  unfold monthLength
  cases leap <;> split <;> decide

theorem go_spec {k month n : Nat}
    (h : monthStart leap (month + 1) + n < monthStart leap (month + 1 + k + 1)) :
    let found := monthOf.go leap k (month + 1) n
    month + 1 ≤ found.1 ∧ found.1 ≤ month + 1 + k ∧ 1 ≤ found.2 ∧
      found.2 ≤ monthLength leap found.1 ∧
      monthStart leap found.1 + found.2 = monthStart leap (month + 1) + n + 1 := by
  induction k generalizing month n with
  | zero =>
    rw [Nat.add_zero, monthStart_succ] at h
    simp only [monthOf.go]
    omega
  | succ k ih =>
    simp only [monthOf.go]
    split
    · dsimp only
      omega
    · rename_i hlong
      have hstart := monthStart_succ leap month
      rw [show month + 1 + (k + 1) + 1 = month + 1 + 1 + k + 1 by omega] at h
      have hfound := @ih (month + 1) (n - monthLength leap (month + 1)) (by omega)
      dsimp only at hfound
      omega

theorem monthOf_spec {n : Nat} (h : n < 365 + leap.toNat) :
    1 ≤ (monthOf leap n).1 ∧ (monthOf leap n).1 ≤ 12 ∧ 1 ≤ (monthOf leap n).2 ∧
      (monthOf leap n).2 ≤ monthLength leap (monthOf leap n).1 ∧
      monthStart leap (monthOf leap n).1 + (monthOf leap n).2 = n + 1 := by
  have hstart : monthStart leap 1 = 0 := rfl
  have hend := monthStart_thirteen leap
  have hfound := @go_spec leap 11 0 n (by
    change monthStart leap 1 + n < monthStart leap 13
    omega)
  rw [Nat.zero_add, hstart, Nat.zero_add] at hfound
  exact hfound

end Months

theorem yearStart_succ (year : Int) :
    yearStart (year + 1) = yearStart year + 365 + (isLeap year).toNat := by
  have hleap : (isLeap year).toNat =
      if year % 4 = 0 ∧ (year % 100 ≠ 0 ∨ year % 400 = 0) then 1 else 0 := by
    simp only [isLeap]
    by_cases h4 : year % 4 = 0 <;> by_cases h100 : year % 100 = 0 <;>
      by_cases h400 : year % 400 = 0 <;> simp [h4, h100, h400]
  rw [hleap]
  simp only [yearStart]
  split <;> omega

theorem yearOf_eq {year days : Int} (hle : yearStart year ≤ days)
    (hlt : days < yearStart (year + 1)) : yearOf days = year := by
  apply Int.le_antisymm
  · apply Int.lt_add_one_iff.1
    rw [← Int.not_le, le_yearOf_iff]
    exact Int.not_le.2 hlt
  · exact le_yearOf_iff.2 hle

end Calendar

namespace Date

open Calendar

variable {d : Date} {days : Int}

theorem isValid_iff : d.isValid ↔ 1 ≤ d.month ∧ d.month ≤ 12 ∧ 1 ≤ d.day ∧
    d.day ≤ monthLength (isLeap d.year) d.month := by
  simp [isValid, and_assoc]

theorem ofDays_spec (days : Int) : (ofDays days).isValid ∧ (ofDays days).toDays = days := by
  have hle := yearStart_yearOf_le (days + 719528)
  have hlt := lt_yearStart_yearOf (days + 719528)
  rw [yearStart_succ] at hlt
  have hmonth := @monthOf_spec (isLeap (yearOf (days + 719528)))
    (days + 719528 - yearStart (yearOf (days + 719528))).toNat (by omega)
  refine ⟨isValid_iff.2 ⟨hmonth.1, hmonth.2.1, hmonth.2.2.1, hmonth.2.2.2.1⟩, ?_⟩
  simp only [toDays, ofDays]
  omega

theorem year_ofDays_toDays (h : d.isValid) : (ofDays d.toDays).year = d.year := by
  obtain ⟨hfirst, hlast, hday, hlength⟩ := isValid_iff.1 h
  have hstart : monthStart (isLeap d.year) d.month + monthLength (isLeap d.year) d.month ≤
      365 + (isLeap d.year).toNat := by
    obtain ⟨month, hmonth⟩ := Nat.exists_eq_add_of_le' hfirst
    rw [hmonth, ← monthStart_succ, ← monthStart_thirteen]
    exact monthStart_mono _ (by omega)
  have hnext := yearStart_succ d.year
  apply yearOf_eq <;> simp only [toDays] <;> omega

end Date

namespace Timestamp

theorem isValid_date (t : Timestamp) : t.date.isValid := (Date.ofDays_spec _).1

theorem timeOfDay_lt (t : Timestamp) : t.timeOfDay < 86400 * 1_000_000_000 := by
  have hlt := Int.emod_lt_of_pos t.clock (b := dayLength) (by decide)
  simp only [timeOfDay, dayLength] at *
  omega

theorem ofLocal_date (t : Timestamp) : ofLocal t.date t.timeOfDay t.offset = t := by
  have hdays := (Date.ofDays_spec (t.clock / dayLength)).2
  have hpos : 0 ≤ t.clock % dayLength := Int.emod_nonneg _ (by decide)
  have hsplit := Int.mul_ediv_add_emod t.clock dayLength
  rw [Int.mul_comm] at hsplit
  simp only [ofLocal, date, timeOfDay, hdays, Int.toNat_of_nonneg hpos, hsplit]
  simp [clock]

theorem year_ofLocal {d : Date} (h : d.isValid) {timeOfDay : Nat} (htime : timeOfDay < dayLength)
    (offset : Int) : (ofLocal d timeOfDay offset).date.year = d.year := by
  have hclock : (ofLocal d timeOfDay offset).clock = d.toDays * dayLength + timeOfDay := by
    simp [clock, ofLocal]
  have hday : (d.toDays * dayLength + timeOfDay) / dayLength = d.toDays := by
    rw [dayLength] at *
    omega
  rw [date, hclock, hday]
  exact Date.year_ofDays_toDays h

end Timestamp

end Bulletin
