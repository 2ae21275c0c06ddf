import Mathlib.Data.List.Induction
import Bulletin.Proofs.Json.Whole

namespace Bulletin

namespace Numeral

variable {s : String} {n : Nat} {cs : List Char}

theorem exists_digitChar {c : Char} (h : c.isDigit) : ∃ d < 10, d.digitChar = c := by
  have hc := Char.isDigit_iff_toNat.1 h
  have hzero : '0'.toNat = 48 := rfl
  have hnine : '9'.toNat = 57 := rfl
  have hvalue : ∀ d < 10, d.digitChar.toNat = 48 + d := by decide
  have hlt : c.toNat - 48 < 10 := by omega
  refine ⟨c.toNat - 48, hlt, Char.ext (UInt32.toNat_inj.1 ?_)⟩
  have hsum : 48 + (c.toNat - 48) = c.toNat := by omega
  exact (hvalue _ hlt).trans hsum

theorem toDigits_ofDigitChars (hne : cs ≠ []) (hdigits : ∀ c ∈ cs, c.isDigit)
    (hunpadded : cs.head? = some '0' → cs = ['0']) :
    Nat.toDigits 10 (Nat.ofDigitChars 10 cs 0) = cs := by
  induction cs using List.reverseRecOn with
  | nil => exact absurd rfl hne
  | append_singleton cs c ih =>
    obtain ⟨d, hd, rfl⟩ := exists_digitChar (hdigits c (by simp))
    rw [Nat.ofDigitChars_append, Nat.ofDigitChars_cons_digitChar_of_lt_ten hd, Nat.ofDigitChars_nil]
    by_cases hcs : cs = []
    · subst hcs
      rw [Nat.ofDigitChars_nil, Nat.mul_zero, Nat.zero_add, Nat.toDigits_of_lt_base hd]
      rfl
    · have hhead : cs.head? ≠ some '0' := by
        intro hzero
        have hpadded := hunpadded (by rw [List.head?_append_of_ne_nil _ hcs, hzero])
        exact hcs (List.append_eq_singleton_iff.1 hpadded |>.elim (·.1) fun h => by simp at h)
      have hfront := ih hcs (fun d hd => hdigits d (by simp [hd])) fun hzero => absurd hzero hhead
      have hpos : 0 < Nat.ofDigitChars 10 cs 0 := by
        apply Nat.pos_of_ne_zero
        intro hzero
        rw [hzero, Nat.toDigits_zero] at hfront
        exact hhead (hfront ▸ rfl)
      rw [← Nat.toDigits_append_toDigits (by decide) hpos hd, hfront, Nat.toDigits_of_lt_base hd]

theorem canonical_iff : Canonical s n ↔ s = toString n := by
  rw [Nat.toString_eq_ofList_toDigits]
  constructor
  · intro h
    have hcs : Nat.toDigits 10 n = s.toList := by
      rw [← h.value]
      apply toDigits_ofDigitChars (by simpa using h.nonempty) h.digits
      intro hzero
      rw [h.unpadded hzero]
      decide
    rw [hcs, String.ofList_toList]
  · rintro rfl
    refine ⟨?_, ?_, ?_, ?_⟩
    · intro hempty
      exact Nat.toDigits_ne_nil (String.ofList_eq_empty_iff.1 hempty)
    · intro c hc
      rw [String.toList_ofList] at hc
      exact Nat.isDigit_of_mem_toDigits (by decide) (by decide) hc
    · intro hzero
      rw [String.toList_ofList] at hzero
      by_cases hn : n = 0
      · rw [hn, Nat.toDigits_zero]
      · exact absurd (by rw [write, List.head?_map, hzero]; rfl) (head?_write hn)
    · rw [String.toList_ofList, Nat.ofDigitChars_ten_toDigits]

theorem Canonical.utf8_eq (h : Canonical s n) : utf8 s = write n := by
  rw [canonical_iff.1 h, Nat.toString_eq_ofList_toDigits, utf8_ofList_of_isDigit]
  · rfl
  · exact fun c hc => Nat.isDigit_of_mem_toDigits (by decide) (by decide) hc

theorem exists_canonical {ds : Bytes} (hne : ds ≠ []) (hdigits : ∀ b ∈ ds, isDigit b)
    (hhead : ds.head? ≠ some Ascii.zero) : ∃ s, utf8 s = ds ∧ Canonical s (value ds) := by
  obtain ⟨cs, hcs, rfl⟩ := exists_map_eq hdigits
  refine ⟨String.ofList cs, utf8_ofList_of_isDigit hcs, ?_, ?_, ?_, ?_⟩
  · intro hempty
    exact hne (congrArg _ (String.ofList_eq_empty_iff.1 hempty))
  · rwa [String.toList_ofList]
  · intro hzero
    rw [String.toList_ofList] at hzero
    exact absurd (by rw [List.head?_map, hzero]; rfl) hhead
  · rw [String.toList_ofList, value_map hcs]

end Numeral

namespace Json

open Bulletin.Numeral (isDigit Canonical)

variable {negative : Bool} {significand dropped : Nat} {n : UInt64} {input rest : Bytes} {e : Int}

namespace Numeral

def Rounded (outcome : Except Failure (Number × Bytes)) : Prop :=
  ∀ n rest, outcome ≠ .ok (.natural n, rest)

theorem rounded_inexact : Rounded (inexact negative significand e input) := by
  intro n rest h
  unfold inexact at h
  split at h <;> cases h

theorem rounded_exponent : Rounded (exponent negative significand e input) := by
  intro n rest h
  unfold exponent at h
  -- With a sign or without one, the same is made of the digits.
  split at h
  all_goals
    dsimp only at h
    split at h
    · split at h <;> cases h
    · split at h
      · split at h <;> cases h
      · exact rounded_inexact _ _ h

theorem of_whole
    (h : continuation.whole negative significand dropped input = .ok (.natural n, rest)) :
    negative = false ∧ dropped = 0 ∧ n = significand.toUInt64 ∧ rest = input := by
  unfold continuation.whole at h
  split at h
  · exact absurd h (rounded_inexact _ _)
  case isFalse hdropped =>
    split at h
    case isTrue hnegative =>
      cases h
      exact ⟨by simpa using hnegative, not_not.1 hdropped, rfl, rfl⟩
    case isFalse =>
      split at h
      · exact absurd h (rounded_inexact _ _)
      · cases h

theorem of_continuation
    (h : continuation negative significand dropped input = .ok (.natural n, rest)) :
    negative = false ∧ dropped = 0 ∧ n = significand.toUInt64 ∧ rest = input := by
  unfold continuation at h
  split at h
  case h_1 =>
    dsimp only at h
    split at h
    · split at h <;> cases h
    · split at h
      · exact absurd h (rounded_inexact _ _)
      · split at h
        · exact absurd h (rounded_exponent _ _)
        · exact absurd h (rounded_inexact _ _)
  case h_2 => exact of_whole h
  case h_3 =>
    split at h
    · exact absurd h (rounded_exponent _ _)
    · exact of_whole h

theorem of_absorb {ds : Bytes} {m : Nat} (h : absorb m ds = (significand, 0))
    (hm : m < UInt64.size) :
    significand = ds.foldl (fun n d => 10 * n + Bulletin.Numeral.digit d) m ∧
      significand < UInt64.size := by
  induction ds generalizing m with
  | nil =>
    cases h
    exact ⟨rfl, hm⟩
  | cons d ds ih =>
    unfold absorb at h
    dsimp only at h
    split at h
    case isTrue hnext => exact ih h hnext
    case isFalse => cases h

theorem of_read (h : read negative input = .ok (.natural n, rest)) :
    negative = false ∧ ∃ s, Canonical s n.toNat ∧ input = utf8 s ++ rest := by
  unfold read at h
  split at h
  · cases h
  case h_2 b more =>
    split at h
    · cases h
    case isFalse hdigit =>
      have hb : isDigit b := by simpa using hdigit
      split at h
      case isTrue hzero =>
        subst hzero
        have hcontinuation : continuation negative 0 0 more = .ok (.natural n, rest) := by
          split at h
          · exact h
          · split at h
            · cases h
            · exact h
        obtain ⟨hnegative, -, rfl, rfl⟩ := of_continuation hcontinuation
        exact ⟨hnegative, "0", Bulletin.Numeral.canonical_iff.2 rfl, rfl⟩
      case isFalse hnonzero =>
        dsimp only at h
        obtain ⟨hnegative, hdropped, hn, rfl⟩ := of_continuation h
        rw [List.span_eq_takeWhile_dropWhile] at hdropped hn ⊢
        have hsplit := List.takeWhile_append_dropWhile (p := isDigit) (l := b :: more)
        obtain ⟨hvalue, hlt⟩ := of_absorb (Prod.ext rfl hdropped) (by decide)
        have hne : (b :: more).takeWhile isDigit ≠ [] := by simp [hb]
        have hhead : ((b :: more).takeWhile isDigit).head? ≠ some Ascii.zero := by
          simpa [hb] using hnonzero
        obtain ⟨s, hs, hcanonical⟩ := Bulletin.Numeral.exists_canonical hne
          (fun d hd => List.mem_takeWhile_imp hd) hhead
        refine ⟨hnegative, s, ?_, ?_⟩
        · rw [hn, Nat.toUInt64, UInt64.toNat_ofNat_of_lt' hlt, hvalue]
          exact hcanonical
        · rw [hs]
          exact hsplit.symm

end Numeral

namespace Lexer

theorem of_number (h : token.number negative input = .ok (.number (.natural n), rest)) :
    negative = false ∧ ∃ s, Canonical s n.toNat ∧ input = utf8 s ++ rest := by
  unfold token.number at h
  cases hread : Numeral.read negative input with
  | error f =>
    rw [hread] at h
    cases h
  | ok part =>
    obtain ⟨number, after⟩ := part
    rw [hread] at h
    cases h
    exact Numeral.of_read hread

theorem of_token (h : token input = .ok (.number (.natural n), rest)) :
    ∃ before s, (∀ b ∈ before, isBlank b) ∧ Canonical s n.toNat ∧
      input = before ++ (utf8 s ++ rest) := by
  obtain ⟨before, hbefore, hinput⟩ := exists_blanks input
  refine ⟨before, ?_⟩
  rw [hinput]
  unfold token at h
  split at h
  case h_1 => cases h
  case h_2 b more hskip =>
    rw [hskip]
    split at h
    case h_1 | h_2 | h_3 =>
      cases hword : word _ more <;> rw [hword] at h <;> cases h
    case h_4 =>
      cases hread : Literal.read more <;> rw [hread] at h <;> cases h
    case h_5 => exact absurd (of_number h).1 (by decide)
    case h_6 | h_7 => cases h
    case h_8 =>
      split at h
      · obtain ⟨-, s, hs, heq⟩ := of_number h
        exact ⟨s, hbefore, hs, congrArg (before ++ ·) heq⟩
      · cases h

theorem token_natural_iff (hrest : Numeral.Ends rest) :
    token input = .ok (.number (.natural n), rest) ↔ ∃ before s, (∀ b ∈ before, isBlank b) ∧
      Canonical s n.toNat ∧ input = before ++ (utf8 s ++ rest) := by
  refine ⟨of_token, ?_⟩
  rintro ⟨before, s, hbefore, hs, rfl⟩
  rw [token_skip hbefore, hs.utf8_eq]
  have htoken := token_natural n.toNat_lt hrest
  rwa [Nat.toUInt64, UInt64.ofNat_toNat] at htoken

end Lexer

end Json

end Bulletin
