import Mathlib.Algebra.Group.Nat.Defs
import Mathlib.Data.List.Basic
import Mathlib.Data.List.TakeDrop
import Bulletin.Text.Numeral

namespace Bulletin

theorem forall_byte {p : UInt8 → Prop} (h : ∀ n : Fin 256, p (UInt8.ofFin n)) (b : UInt8) : p b :=
  h b.toFin

theorem utf8_eq_flatMap (s : String) : utf8 s = s.toList.flatMap String.utf8EncodeChar := by
  have hbytes : s.toList.utf8Encode = s.toByteArray := String.utf8Encode_toList
  rw [utf8, String.toUTF8, ← hbytes, List.utf8Encode, List.toList_data_toByteArray]

section Ascii

variable {cs : List Char}

theorem utf8_ofList (h : ∀ c ∈ cs, c.toNat < 128) :
    utf8 (String.ofList cs) = cs.map Char.toUInt8 := by
  rw [utf8_eq_flatMap, String.toList_ofList, List.map_eq_flatMap, List.flatMap_def,
    List.flatMap_def]
  refine congrArg List.flatten (List.map_congr_left fun c hc => ?_)
  have hsmall : c.val.toNat ≤ 127 := Nat.le_of_lt_succ (h c hc)
  simp only [String.utf8EncodeChar, hsmall]
  rfl

theorem utf8_ofList_of_isDigit (h : ∀ c ∈ cs, c.isDigit) :
    utf8 (String.ofList cs) = cs.map Char.toUInt8 :=
  utf8_ofList fun c hc => Nat.lt_of_le_of_lt (Char.isDigit_iff_toNat.1 (h c hc)).2 (by decide)

theorem toUInt8_ofUInt8 (bytes : Bytes) : (bytes.map Char.ofUInt8).map Char.toUInt8 = bytes := by
  rw [List.map_map]
  refine (List.map_congr_left fun b _ => ?_).trans bytes.map_id
  exact UInt8.toNat_inj.1 (Nat.mod_eq_of_lt b.toNat_lt)

theorem exists_utf8_eq {bytes : Bytes} (h : ∀ b ∈ bytes, b < 128) : ∃ s, utf8 s = bytes := by
  refine ⟨String.ofList (bytes.map Char.ofUInt8), ?_⟩
  rw [utf8_ofList, toUInt8_ofUInt8]
  intro c hc
  obtain ⟨b, hb, rfl⟩ := List.mem_map.1 hc
  exact UInt8.lt_iff_toNat_lt.1 (h b hb)

end Ascii

theorem utf8_injective {s t : String} (h : utf8 s = utf8 t) : s = t := by
  have hs := ofUtf8?_utf8 s
  rw [h, ofUtf8?_utf8] at hs
  exact (Option.some.inj hs).symm

theorem isDigit_toUInt8 {c : Char} (h : c.isDigit) : Numeral.isDigit c.toUInt8 := by
  have hsmall : c.toNat < 256 := Nat.lt_of_le_of_lt (Char.isDigit_iff_toNat.1 h).2 (by decide)
  have hc : Char.ofUInt8 c.toUInt8 = c := by
    apply Char.ext
    apply UInt32.toNat_inj.1
    exact Nat.mod_eq_of_lt hsmall
  rw [Numeral.isDigit, hc]
  exact h

theorem value_map {cs : List Char} (h : ∀ c ∈ cs, c.isDigit) :
    Numeral.value (cs.map Char.toUInt8) = Nat.ofDigitChars 10 cs 0 := by
  rw [Numeral.value, List.foldl_map, Nat.ofDigitChars_eq_foldl]
  apply List.foldl_ext
  intro value c hc
  have hsmall : c.toNat < 256 :=
    Nat.lt_of_le_of_lt (Char.isDigit_iff_toNat.1 (h c hc)).2 (by decide)
  have hbyte : c.toUInt8.toNat = c.toNat := Nat.mod_eq_of_lt hsmall
  rw [Numeral.digit, hbyte]
  rfl

theorem value_toDigits (n : Nat) : Numeral.value ((Nat.toDigits 10 n).map Char.toUInt8) = n := by
  have hdigits : ∀ c ∈ Nat.toDigits 10 n, c.isDigit := fun c hc =>
    Nat.isDigit_of_mem_toDigits (by decide) (by decide) hc
  rw [value_map hdigits, Nat.ofDigitChars_ten_toDigits]

namespace Numeral

variable {n width : Nat} {ds : Bytes}

theorem digit_le {b : UInt8} (h : isDigit b) : digit b ≤ 9 := by
  have hle := (Char.isDigit_iff_toNat.1 h).2
  have hbyte : (Char.ofUInt8 b).toNat = b.toNat := rfl
  have hnine : '9'.toNat = 57 := rfl
  rw [digit]
  omega

theorem foldl_lt (hds : ∀ b ∈ ds, isDigit b) :
    ds.foldl (fun n d => 10 * n + digit d) n < (n + 1) * 10 ^ ds.length := by
  induction ds generalizing n with
  | nil => simp
  | cons d ds ih =>
    have hd := digit_le (hds d List.mem_cons_self)
    refine Nat.lt_of_lt_of_le (ih fun b hb => hds b (List.mem_cons_of_mem _ hb)) ?_
    rw [List.length_cons, Nat.pow_succ', ← Nat.mul_assoc]
    have hnext : 10 * n + digit d + 1 ≤ (n + 1) * 10 := by omega
    exact Nat.mul_le_mul_right _ hnext

theorem value_lt (hds : ∀ b ∈ ds, isDigit b) : value ds < 10 ^ ds.length := by
  have hlt := foldl_lt (n := 0) hds
  rwa [Nat.zero_add, Nat.one_mul] at hlt

theorem isDigit_of_mem_write : ∀ b ∈ write n, isDigit b := by
  intro b hb
  obtain ⟨c, hc, rfl⟩ := List.mem_map.1 hb
  exact isDigit_toUInt8 (Nat.isDigit_of_mem_toDigits (by decide) (by decide) hc)

theorem write_ne_nil : write n ≠ [] := by
  rw [write, Ne, List.map_eq_nil_iff]
  exact Nat.toDigits_ne_nil

theorem digitChar_ne_zero : ∀ n < 10, n ≠ 0 → n.digitChar.toUInt8 ≠ Ascii.zero := by decide

theorem write_of_lt (h : n < 10) : write n = [n.digitChar.toUInt8] := by
  rw [write, Nat.toDigits_of_lt_base h]
  rfl

theorem head?_write (h : n ≠ 0) : (write n).head? ≠ some Ascii.zero := by
  induction n using Nat.strongRecOn with
  | ind n ih =>
    by_cases hsmall : n < 10
    · rw [write_of_lt hsmall]
      exact fun hzero => digitChar_ne_zero n hsmall h (Option.some.inj hzero)
    · have hsplit : write n = write (n / 10) ++ [(n % 10).digitChar.toUInt8] := by
        rw [write, Nat.toDigits_of_base_le (by decide) (Nat.not_lt.1 hsmall), List.map_append]
        rfl
      rw [hsplit, List.head?_append_of_ne_nil _ write_ne_nil]
      exact ih (n / 10) (by omega) (by omega)

section Run

variable {rest : Bytes} (hds : ∀ b ∈ ds, isDigit b) (hrest : ∀ b ∈ rest.head?, isDigit b = false)
include hds hrest

theorem takeWhile_run : (ds ++ rest).takeWhile isDigit = ds := by
  rw [List.takeWhile_append_of_pos hds]
  cases rest with
  | nil => simp
  | cons b rest => simp [hrest b rfl]

theorem dropWhile_run : (ds ++ rest).dropWhile isDigit = rest := by
  rw [List.dropWhile_append_of_pos hds]
  cases rest with
  | nil => simp
  | cons b rest => simp [hrest b rfl]

theorem span_run : (ds ++ rest).span isDigit = (ds, rest) := by
  rw [List.span_eq_takeWhile_dropWhile, takeWhile_run hds hrest, dropWhile_run hds hrest]

end Run

theorem value_zeros (k : Nat) (ds : Bytes) :
    value (List.replicate k Ascii.zero ++ ds) = value ds := by
  induction k with
  | zero => rfl
  | succ k ih => exact ih

theorem value_padded : value (padded width n) = n := by
  rw [padded, value_zeros]
  exact value_toDigits n

theorem isDigit_of_mem_padded : ∀ b ∈ padded width n, isDigit b := by
  intro b hb
  rcases List.mem_append.1 hb with hb | hb
  · rw [List.eq_of_mem_replicate hb]
    decide
  · exact isDigit_of_mem_write b hb

theorem length_padded (hwidth : 0 < width) (h : n < 10 ^ width) :
    (padded width n).length = width := by
  have hlength : (write n).length ≤ width := by
    rw [write, List.length_map]
    exact (Nat.length_toDigits_le_iff (by decide) hwidth).2 h
  rw [padded, List.length_append, List.length_replicate]
  omega

section Text

variable {bytes : Bytes} {bound : Nat} {s : String} {digits : List Char}

theorem exists_map_eq (h : ∀ b ∈ bytes, isDigit b) :
    ∃ digits : List Char, (∀ c ∈ digits, c.isDigit) ∧ digits.map Char.toUInt8 = bytes := by
  refine ⟨bytes.map Char.ofUInt8, ?_, toUInt8_ofUInt8 bytes⟩
  intro c hc
  obtain ⟨b, hb, rfl⟩ := List.mem_map.1 hc
  exact h b hb

theorem read?_eq_some_iff : read? bytes = some n ↔ ∃ digits : List Char, digits ≠ [] ∧
    (∀ c ∈ digits, c.isDigit) ∧ digits.map Char.toUInt8 = bytes ∧
      Nat.ofDigitChars 10 digits 0 = n := by
  constructor
  · intro h
    unfold read? at h
    split at h
    · cases h
    case isFalse hread =>
      simp only [Bool.or_eq_true, List.isEmpty_iff, Bool.not_eq_true', not_or, Bool.not_eq_false,
        List.all_eq_true] at hread
      obtain ⟨digits, hdigits, rfl⟩ := exists_map_eq hread.2
      refine ⟨digits, fun hnil => hread.1 (hnil ▸ rfl), hdigits, rfl, ?_⟩
      rw [← value_map hdigits]
      exact Option.some.inj h
  · rintro ⟨digits, hne, hdigits, rfl, rfl⟩
    have hempty : (digits.map Char.toUInt8).isEmpty = false := by simpa using hne
    have hall : (digits.map Char.toUInt8).all isDigit := by
      simpa using fun c hc => isDigit_toUInt8 (hdigits c hc)
    rw [read?, hempty, hall, value_map hdigits]
    rfl

theorem utf8_plus (hdigits : ∀ c ∈ digits, c.isDigit) :
    utf8 (.ofList ('+' :: digits)) = Ascii.plus :: digits.map Char.toUInt8 := by
  apply utf8_ofList
  intro c hc
  rcases List.mem_cons.1 hc with rfl | hc
  · decide
  · exact Nat.lt_of_le_of_lt (Char.isDigit_iff_toNat.1 (hdigits c hc)).2 (by decide)

theorem not_mem_digits {b : UInt8} (hb : isDigit b = false) (hdigits : ∀ c ∈ digits, c.isDigit) :
    b ∉ digits.map Char.toUInt8 := by
  intro hmem
  obtain ⟨c, hc, rfl⟩ := List.mem_map.1 hmem
  exact absurd (isDigit_toUInt8 (hdigits c hc)) (by simp [hb])

theorem ofText?_of_utf8 (hne : digits ≠ []) (hdigits : ∀ c ∈ digits, c.isDigit)
    (hs : utf8 s ∈ [digits.map Char.toUInt8, Ascii.plus :: digits.map Char.toUInt8]) :
    ofText? bound s = (some (Nat.ofDigitChars 10 digits 0)).filter (· < bound) := by
  have hread : read? (digits.map Char.toUInt8) = some (Nat.ofDigitChars 10 digits 0) :=
    read?_eq_some_iff.2 ⟨digits, hne, hdigits, rfl, rfl⟩
  rw [ofText?, ← hread]
  rcases List.mem_pair.1 hs with hs | hs
  · rw [hs]
    split
    case h_1 heq => exact absurd (heq ▸ List.mem_cons_self) (not_mem_digits (by decide) hdigits)
    case h_2 => rfl
  · rw [hs]
    rfl

theorem ofText?_eq_some_iff : ofText? bound s = some n ↔ n < bound ∧ Denotes s n := by
  constructor
  · intro h
    obtain ⟨hread, hlt⟩ := Option.filter_eq_some_iff.1 h
    obtain ⟨digits, hne, hdigits, hbytes, hvalue⟩ := read?_eq_some_iff.1 hread
    refine ⟨by simpa using hlt, digits, hne, hdigits, List.mem_pair.2 ?_, hvalue⟩
    split at hbytes
    case h_1 rest hs =>
      right
      have hplus : utf8 s = utf8 (.ofList ('+' :: digits)) := by
        rw [utf8_plus hdigits, hbytes]
        exact hs
      rw [utf8_injective hplus, String.toList_ofList]
    case h_2 =>
      left
      rw [← utf8_ofList_of_isDigit hdigits] at hbytes
      rw [← utf8_injective hbytes, String.toList_ofList]
  · rintro ⟨hlt, digits, hne, hdigits, hs, rfl⟩
    have hutf8 : utf8 s ∈ [digits.map Char.toUInt8, Ascii.plus :: digits.map Char.toUInt8] := by
      rcases List.mem_pair.1 hs with hs | hs
      · rw [← String.ofList_toList (s := s), hs, utf8_ofList_of_isDigit hdigits]
        exact List.mem_cons_self
      · rw [← String.ofList_toList (s := s), hs, utf8_plus hdigits]
        exact List.mem_cons_of_mem _ List.mem_cons_self
    rw [ofText?_of_utf8 hne hdigits hutf8]
    exact Option.filter_eq_some_iff.2 ⟨rfl, by simpa using hlt⟩

end Text

end Numeral

end Bulletin
