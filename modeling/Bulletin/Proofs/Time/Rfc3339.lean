import Mathlib.Data.List.TakeWhile
import Bulletin.Proofs.Dialogue
import Bulletin.Proofs.Text.Numeral
import Bulletin.Proofs.Time.Days

namespace Bulletin

structure Timestamp.Expressible (t : Timestamp) : Prop where
  notBefore : 0 ≤ t.date.year
  notAfter : t.date.year ≤ 9999
  offset : t.offset.natAbs < 1440

namespace Rfc3339

open Numeral

variable {rest : Bytes} {n nanos width : Nat} {c : Component}

theorem digits_padded (hwidth : 0 < width) (h : n < 10 ^ width) :
    digits c width (padded width n ++ rest) = .ok (n, rest) := by
  have hlength := length_padded hwidth h
  have htake : (padded width n ++ rest).take width = padded width n := List.take_left' hlength
  have hdrop : (padded width n ++ rest).drop width = rest := List.drop_left' hlength
  have hall : (padded width n).all isDigit := List.all_eq_true.2 isDigit_of_mem_padded
  rw [digits, htake, hdrop, value_padded]
  exact if_pos ⟨hlength, hall⟩

theorem literal_cons (b : UInt8) : literal b (b :: rest) = .ok rest := if_pos rfl

theorem padded_eq_trimmed (nanos : Nat) : ∃ k, padded 9 nanos =
    ((padded 9 nanos).reverse.dropWhile (· == Ascii.zero)).reverse ++
      List.replicate k Ascii.zero := by
  generalize padded 9 nanos = ds
  have hzeros : ∀ b ∈ ds.reverse.takeWhile (· == Ascii.zero), b = Ascii.zero := fun b hb =>
    eq_of_beq (List.mem_takeWhile_imp (p := (· == Ascii.zero)) hb)
  have hsplit := congrArg List.reverse (List.takeWhile_append_dropWhile
    (p := (· == Ascii.zero)) (l := ds.reverse))
  rw [List.reverse_append, List.reverse_reverse, List.eq_replicate_of_mem hzeros,
    List.reverse_replicate] at hsplit
  exact ⟨_, hsplit.symm⟩

section Subsecond

variable (hdigit : ∀ b ∈ rest.head?, isDigit b = false)
include hdigit

theorem subsecond_run {ds : Bytes} (hds : ∀ b ∈ ds, isDigit b) (hne : ds ≠ []) :
    subsecond (Ascii.point :: (ds ++ rest)) =
      .ok (value ((ds ++ List.replicate 9 Ascii.zero).take 9), rest) := by
  change (if ((ds ++ rest).takeWhile isDigit).isEmpty then _ else
    Except.ok (value (((ds ++ rest).takeWhile isDigit ++ List.replicate 9 Ascii.zero).take 9),
      (ds ++ rest).dropWhile isDigit)) = _
  rw [takeWhile_run hds hdigit, dropWhile_run hds hdigit]
  exact if_neg (by simpa using hne)

theorem subsecond_fraction (h : nanos < 10 ^ 9) (hpoint : rest.head? ≠ some Ascii.point) :
    subsecond (fraction nanos ++ rest) = .ok (nanos, rest) := by
  by_cases hzero : nanos = 0
  · rw [fraction, if_pos hzero, hzero, List.nil_append]
    unfold subsecond
    split
    · exact absurd rfl hpoint
    · rfl
  · obtain ⟨k, hpadded⟩ := padded_eq_trimmed nanos
    rw [fraction, if_neg hzero]
    revert hpadded
    generalize ((padded 9 nanos).reverse.dropWhile (· == Ascii.zero)).reverse = ds
    intro hpadded
    have hds : ∀ b ∈ ds, isDigit b := fun b hb =>
      isDigit_of_mem_padded b (hpadded ▸ List.mem_append_left _ hb)
    have hne : ds ≠ [] := by
      rintro rfl
      apply hzero
      rw [← value_padded (n := nanos), hpadded, List.nil_append,
        ← List.append_nil (List.replicate ..), value_zeros]
      rfl
    have hlength : ds.length + k = 9 := by
      have := length_padded (by decide) h
      rwa [hpadded, List.length_append, List.length_replicate] at this
    have hnine : (ds ++ List.replicate 9 Ascii.zero).take 9 = padded 9 nanos := by
      rw [hpadded, ← hlength, Nat.add_comm ds.length, ← List.replicate_append_replicate,
        ← List.append_assoc]
      apply List.take_left'
      rw [List.length_append, List.length_replicate, Nat.add_comm]
    refine (subsecond_run hdigit hds hne).trans ?_
    rw [hnine, value_padded]

end Subsecond

theorem signed_padded (sign : Int) (h : n < 1440) :
    signed sign (padded 2 (n / 60) ++ Ascii.colon :: padded 2 (n % 60)) = .ok (sign * n, []) := by
  have hminute : digits .offsetMinute 2 (padded 2 (n % 60)) = .ok (n % 60, []) := by
    rw [← List.append_nil (padded ..)]
    exact digits_padded (by decide) (by omega)
  have hrequire : require .offsetMinute (decide (n % 60 < 60)) = .ok () := by
    rw [decide_eq_true (by omega)]
    rfl
  have hsum : ((n / 60 : Nat) : Int) * 60 + (n % 60 : Nat) = n := by omega
  unfold signed
  rw [digits_padded (by decide) (by omega)]
  change (if 23 < n / 60 then _ else _) = _
  rw [if_neg (by omega), literal_cons]
  change (digits .offsetMinute 2 _ >>= _) = _
  rw [hminute]
  change (require .offsetMinute _ >>= _) = _
  rw [hrequire, ← hsum]
  rfl

theorem offset_zone {o : Int} (h : o.natAbs < 1440) : offset (zone o) = .ok (o, []) := by
  unfold zone
  by_cases hzero : o = 0
  · rw [if_pos hzero, hzero]
    rfl
  · rw [if_neg hzero]
    by_cases hneg : o < 0
    · rw [if_pos hneg]
      refine (signed_padded (-1) h).trans ?_
      rw [show (-1) * (o.natAbs : Int) = o by omega]
    · rw [if_neg hneg]
      refine (signed_padded 1 h).trans ?_
      rw [show 1 * (o.natAbs : Int) = o by omega]

theorem require_true {holds : Bool} (h : holds) : require c holds = .ok () := by
  rw [h]
  rfl

theorem head?_zone (o : Int) :
    (∀ b ∈ (zone o).head?, isDigit b = false) ∧ (zone o).head? ≠ some Ascii.point := by
  have hfirst : ∃ b, (zone o).head? = some b ∧ isDigit b = false ∧ b ≠ Ascii.point := by
    unfold zone
    split
    · exact ⟨_, rfl, by decide, by decide⟩
    · split
      · exact ⟨_, rfl, by decide, by decide⟩
      · exact ⟨_, rfl, by decide, by decide⟩
  obtain ⟨b, hhead, hdigit, hpoint⟩ := hfirst
  rw [hhead]
  refine ⟨?_, fun heq => hpoint (Option.some.inj heq)⟩
  rintro _ ⟨⟩
  exact hdigit

theorem read_write {t : Timestamp} (h : t.Expressible) :
    ∃ text, write? t = some text ∧ read text = .ok t := by
  have hvalid := t.isValid_date
  obtain ⟨hfirst, hlast, -, hend⟩ := Date.isValid_iff.1 hvalid
  have hlength := Calendar.monthLength_le (Calendar.isLeap t.date.year) t.date.month
  have htime := t.timeOfDay_lt
  have hlocal := t.ofLocal_date
  have hnotBefore := h.notBefore
  have hnotAfter := h.notAfter
  refine ⟨_, if_pos ⟨hnotBefore, hnotAfter⟩, ?_⟩
  generalize t.date = d at *
  generalize t.timeOfDay = time at *
  -- Each part is read as it was written, whatever comes after it.
  have hyear rest : digits .year 4 (padded 4 d.year.toNat ++ rest) = .ok (d.year.toNat, rest) :=
    digits_padded (by decide) (by omega)
  have hmonth rest : digits .month 2 (padded 2 d.month ++ rest) = .ok (d.month, rest) :=
    digits_padded (by decide) (by omega)
  have hday rest : digits .day 2 (padded 2 d.day ++ rest) = .ok (d.day, rest) :=
    digits_padded (by decide) (by omega)
  have hT rest : separator (utf8 "T" ++ rest) = .ok rest := rfl
  have hhour rest : digits .hour 2 (padded 2 (time / 1_000_000_000 / 3600) ++ rest) =
      .ok (time / 1_000_000_000 / 3600, rest) := digits_padded (by decide) (by omega)
  have hminute rest : digits .minute 2 (padded 2 (time / 1_000_000_000 / 60 % 60) ++ rest) =
      .ok (time / 1_000_000_000 / 60 % 60, rest) := digits_padded (by decide) (by omega)
  have hsecond rest : digits .second 2 (padded 2 (time / 1_000_000_000 % 60) ++ rest) =
      .ok (time / 1_000_000_000 % 60, rest) := digits_padded (by decide) (by omega)
  have hsubsecond : subsecond (fraction (time % 1_000_000_000) ++ zone t.offset) =
      .ok (time % 1_000_000_000, zone t.offset) :=
    subsecond_fraction (head?_zone t.offset).1 (by omega) (head?_zone t.offset).2
  have hzone := offset_zone h.offset
  simp only [List.append_assoc, List.cons_append, read, ok_bind, literal_cons, hyear, hmonth, hday,
    if_neg (show d.month ≠ 0 by omega), hT, hhour, hminute, hsecond, hsubsecond, hzone,
    List.isEmpty_nil, Bool.not_true, Bool.false_eq_true, if_false]
  -- The parts are in range, and together they are the timestamp.
  have hdate : (⟨d.year.toNat, d.month, d.day⟩ : Date) = d := by
    rw [Int.toNat_of_nonneg hnotBefore]
  have hleap : (time / 1_000_000_000 % 60 == 60) = false := by
    rw [beq_eq_false_iff_ne]
    omega
  have hclock : ((time / 1_000_000_000 / 3600 * 60 + time / 1_000_000_000 / 60 % 60) * 60
      + time / 1_000_000_000 % 60) * 1_000_000_000 + time % 1_000_000_000 = time := by omega
  have hhours : time / 1_000_000_000 / 3600 < 24 := by omega
  have hminutes : time / 1_000_000_000 / 60 % 60 < 60 := by omega
  have hseconds : time / 1_000_000_000 % 60 < 60 := by omega
  rw [hdate, hleap]
  simp only [Bool.false_eq_true, if_false, hclock, hlocal, hvalid, require_true rfl, ok_bind,
    Bool.not_false, Bool.true_or, decide_eq_true hlast, decide_eq_true hhours,
    decide_eq_true hminutes, decide_eq_true hseconds]
  rfl

def isMark (b : UInt8) : Bool :=
  isDigit b || b == Ascii.dash || b == Ascii.colon || b == Ascii.plus || b == Ascii.point ||
    b == 'T'.toUInt8 || b == 'Z'.toUInt8

theorem isMark_of_isDigit {b : UInt8} (h : isDigit b) : isMark b := by simp [isMark, h]

theorem all_padded : (padded width n).all isMark :=
  List.all_eq_true.2 fun b hb => isMark_of_isDigit (isDigit_of_mem_padded b hb)

theorem all_fraction : (fraction nanos).all isMark := by
  unfold fraction
  split
  · rfl
  · rw [List.all_cons, List.all_reverse, Bool.and_eq_true]
    refine ⟨by decide, List.all_eq_true.2 fun b hb => ?_⟩
    have hmem := List.mem_reverse.1 ((List.dropWhile_sublist _).subset hb)
    exact isMark_of_isDigit (isDigit_of_mem_padded b hmem)

theorem all_zone (o : Int) : (zone o).all isMark := by
  unfold zone
  split
  · decide
  · rw [List.all_cons, List.all_append, List.all_cons, all_padded, all_padded]
    split <;> decide

theorem isMark_of_mem_write {t : Timestamp} {text : Bytes} (h : write? t = some text) :
    ∀ b ∈ text, isMark b := by
  unfold write? at h
  dsimp only at h
  split at h
  case isFalse => cases h
  case isTrue =>
    cases h
    apply List.all_eq_true.1
    simp only [List.all_append, List.all_cons, all_padded, all_fraction, all_zone]
    decide

section Parts

variable {text : Bytes}

theorem ensures_require {α : Type} {Q : α → Prop} {holds : Bool} {f : Unit → Except Fault α}
    (h : holds → Ensures Q (f ())) : Ensures Q (require c holds >>= f) := by
  cases holds with
  | true => exact h rfl
  | false => exact nofun

theorem digits_lt : Ensures (fun part => part.1 < 10 ^ width) (digits c width text) := by
  unfold digits
  dsimp only
  split
  case isTrue h =>
    rintro _ ⟨⟩
    have hlt := value_lt (List.all_eq_true.1 h.2)
    rwa [h.1] at hlt
  case isFalse => exact nofun

theorem subsecond_lt : Ensures (fun part => part.1 < 10 ^ 9) (subsecond text) := by
  unfold subsecond
  split
  case h_1 rest =>
    dsimp only
    split
    case isTrue => exact nofun
    case isFalse =>
      rintro _ ⟨⟩
      have hdigits : ∀ b ∈ (rest.takeWhile isDigit ++ List.replicate 9 Ascii.zero).take 9,
          isDigit b := by
        intro b hb
        rcases List.mem_append.1 (List.mem_of_mem_take hb) with hb | hb
        · exact List.mem_takeWhile_imp hb
        · rw [List.eq_of_mem_replicate hb]
          decide
      have hlt := value_lt hdigits
      rwa [List.length_take_of_le (by simp)] at hlt
  case h_2 =>
    rintro _ ⟨⟩
    exact Nat.pow_pos (by decide)

theorem signed_lt {sign : Int} (hsign : sign.natAbs = 1) :
    Ensures (fun part => part.1.natAbs < 1440) (signed sign text) := by
  unfold signed
  apply Ensures.bind
  rintro ⟨hour, text⟩ _
  dsimp only
  split
  case isTrue => exact nofun
  case isFalse hhour =>
    apply Ensures.bind
    intro text _
    apply Ensures.bind
    rintro ⟨minute, text⟩ _
    apply ensures_require
    intro hminute
    rintro _ ⟨⟩
    have hsum : (((hour : Int) * 60 + minute)).natAbs < 1440 := by
      have := of_decide_eq_true hminute
      omega
    rw [Int.natAbs_mul, hsign, Nat.one_mul]
    exact hsum

theorem offset_lt : Ensures (fun part => part.1.natAbs < 1440) (offset text) := by
  unfold offset
  split
  · exact signed_lt rfl
  · exact signed_lt rfl
  · split
    · rintro _ ⟨⟩
      exact (by decide : 0 < 1440)
    · exact nofun
  · exact nofun

end Parts

theorem expressible_of_read {text : Bytes} : Ensures Timestamp.Expressible (read text) := by
  unfold read
  apply Ensures.bind
  rintro ⟨year, text⟩ hyear
  apply Ensures.bind
  intro text _
  apply Ensures.bind
  rintro ⟨month, text⟩ _
  dsimp only
  split
  · exact nofun
  apply Ensures.bind
  intro text _
  apply Ensures.bind
  rintro ⟨day, text⟩ _
  apply Ensures.bind
  intro text _
  apply Ensures.bind
  rintro ⟨hour, text⟩ _
  apply Ensures.bind
  intro text _
  apply Ensures.bind
  rintro ⟨minute, text⟩ _
  apply Ensures.bind
  intro text _
  apply Ensures.bind
  rintro ⟨second, text⟩ _
  apply Ensures.bind
  rintro ⟨nanos, text⟩ hnanos
  apply Ensures.bind
  rintro ⟨o, text⟩ ho
  dsimp only
  split
  · exact nofun
  -- A leap second is kept as the nanosecond before it.
  have hclock : (if second == 60 then (59, 999999999) else (second, nanos)).2 < 10 ^ 9 := by
    split
    · decide
    · exact subsecond_lt _ hnanos
  generalize (if second == 60 then (59, 999999999) else (second, nanos)) = clock at *
  apply ensures_require
  intro _
  apply ensures_require
  intro hvalid
  apply ensures_require
  intro hhour
  apply ensures_require
  intro hminute
  apply ensures_require
  intro hsecond
  apply ensures_require
  intro _
  rintro _ ⟨⟩
  have htime : (((hour * 60 + minute) * 60 + clock.1) * 1_000_000_000 + clock.2 : Nat) <
      Timestamp.dayLength := by
    have := of_decide_eq_true hhour
    have := of_decide_eq_true hminute
    have := of_decide_eq_true hsecond
    rw [Timestamp.dayLength]
    omega
  have hlocal := Timestamp.year_ofLocal hvalid htime o
  refine ⟨?_, ?_, offset_lt _ ho⟩
  · rw [hlocal]
    exact Int.natCast_nonneg year
  · rw [hlocal]
    have := digits_lt _ hyear
    dsimp only at this ⊢
    omega

end Rfc3339

end Bulletin
