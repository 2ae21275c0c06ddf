import Bulletin.Proofs.Text.Numeral

namespace Bulletin

variable {s t : String}

theorem ofNat_cons_lt {m n : Nat} {bytes bytes' : Bytes} (hn : n < 256) (hle : m ≤ n)
    (hrest : m = n → bytes < bytes') : UInt8.ofNat m :: bytes < UInt8.ofNat n :: bytes' := by
  rw [List.cons_lt_cons_iff]
  rcases Nat.lt_or_eq_of_le hle with hlt | rfl
  · left
    rw [UInt8.lt_iff_toNat_lt, UInt8.toNat_ofNat', UInt8.toNat_ofNat',
      Nat.mod_eq_of_lt (Nat.lt_trans hlt hn), Nat.mod_eq_of_lt hn]
    exact hlt
  · exact .inr ⟨rfl, hrest rfl⟩

theorem utf8EncodeChar_append_lt {c d : Char} (h : c < d) (bytes bytes' : Bytes) :
    String.utf8EncodeChar c ++ bytes < String.utf8EncodeChar d ++ bytes' := by
  have hlt : c.val.toNat < d.val.toNat := h
  have hvalid : d.val.toNat < 0xD800 ∨ 0xDFFF < d.val.toNat ∧ d.val.toNat < 0x110000 := d.valid
  unfold String.utf8EncodeChar
  dsimp only
  generalize c.val.toNat = m at hlt
  generalize d.val.toNat = n at hlt hvalid
  repeat' split
  -- Byte by byte, the first number is at most the second one where they agree so far, and they
  -- cannot agree to the end.
  all_goals
    repeat refine ofNat_cons_lt (by omega) (by omega) fun _ => ?_
    omega

theorem flatMap_utf8EncodeChar_lt {cs ds : List Char} (h : cs < ds) :
    cs.flatMap String.utf8EncodeChar < ds.flatMap String.utf8EncodeChar := by
  induction h with
  | @nil d ds =>
    rw [List.flatMap_cons, List.flatMap_nil]
    cases hd : String.utf8EncodeChar d with
    | nil => exact absurd hd String.utf8EncodeChar_ne_nil
    | cons b bytes => exact .nil
  | cons _ ih =>
    rw [List.flatMap_cons, List.flatMap_cons]
    exact List.append_left_lt ih
  | rel h =>
    rw [List.flatMap_cons, List.flatMap_cons]
    exact utf8EncodeChar_append_lt h _ _

theorem utf8_lt_utf8 (h : s < t) : utf8 s < utf8 t := by
  rw [utf8_eq_flatMap, utf8_eq_flatMap]
  exact flatMap_utf8EncodeChar_lt h

theorem utf8_le_iff : utf8 s ≤ utf8 t ↔ s ≤ t := by
  constructor
  · intro hle hgt
    exact hle (utf8_lt_utf8 hgt)
  · intro hle hgt
    by_cases heq : s = t
    · exact List.lt_irrefl _ (heq ▸ hgt)
    · have hlt : s < t := String.not_le.1 fun hge => heq (String.le_antisymm hle hge)
      exact List.lt_asymm hgt (utf8_lt_utf8 hlt)

end Bulletin
