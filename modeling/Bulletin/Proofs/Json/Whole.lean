import Mathlib.Data.List.TakeWhile
import Bulletin.Proofs.Json.Scalar

namespace Bulletin.Json

open Bulletin.Numeral (isDigit)

variable {α : Type} {a : α} {input text rest : Bytes}

namespace Lexer

theorem token_skip {before : Bytes} (hbefore : ∀ b ∈ before, isBlank b) :
    token (before ++ input) = token input := by
  rw [token, token, skipBlanks, skipBlanks, List.dropWhile_append_of_pos hbefore]

theorem exists_blanks (input : Bytes) :
    ∃ before, (∀ b ∈ before, isBlank b) ∧ input = before ++ skipBlanks input :=
  ⟨input.takeWhile isBlank, fun _ hb => List.mem_takeWhile_imp hb,
    List.takeWhile_append_dropWhile.symm⟩

theorem endDocument_iff : endDocument input = .ok () ↔ ∀ b ∈ input, isBlank b := by
  rw [← List.dropWhile_eq_nil_iff]
  change _ ↔ skipBlanks input = []
  unfold endDocument
  split
  case h_1 h => simp [h]
  case h_2 h => simp [h]

theorem ends_of_isBlank (h : ∀ b ∈ input, isBlank b) : Numeral.Ends input := by
  have hall : ∀ b : UInt8, isBlank b →
      isDigit b = false ∧ b ≠ Ascii.point ∧ Numeral.isExponentMark b = false :=
    forall_byte (by decide +kernel)
  exact fun b hb => hall b (h b (List.mem_of_mem_head? hb))

end Lexer

namespace Document

theorem whole_eq_ok_iff {reader : Reader α} : whole reader text = .ok a ↔
    ∃ rest, reader text = .ok (a, rest) ∧ ∀ b ∈ rest, Lexer.isBlank b := by
  unfold whole
  constructor
  · intro h
    split at h
    case h_1 => cases h
    case h_2 b rest hread =>
      split at h
      case h_1 => cases h
      case h_2 hend =>
        cases h
        exact ⟨rest, hread, Lexer.endDocument_iff.1 hend⟩
  · rintro ⟨rest, hread, hrest⟩
    rw [hread]
    dsimp only
    rw [Lexer.endDocument_iff.2 hrest]

theorem token_of_value {size depth : Nat} {v : Json} (h : value size depth text = .ok (v, rest))
    (hlist : ∀ items, v ≠ .sequence items) (hobject : ∀ members, v ≠ .object members) :
    Lexer.token text = .ok (v.token, rest) := by
  unfold value at h
  split at h
  case h_1 => cases h
  case h_2 htoken | h_3 htoken | h_4 htoken | h_5 htoken =>
    cases h
    exact htoken
  case h_6 =>
    split at h
    · cases h
    · cases helements : elements _ size 0 [] _ with
      | error f =>
        rw [helements] at h
        cases h
      | ok part =>
        rw [helements] at h
        cases h
        exact absurd rfl (hlist _)
  case h_7 =>
    split at h
    · cases h
    · cases hmembers : members _ size [] _ with
      | error f =>
        rw [hmembers] at h
        cases h
      | ok part =>
        rw [hmembers] at h
        cases h
        exact absurd rfl (hobject _)

theorem value_of_token {size depth : Nat} {token : Token} (h : Lexer.token text = .ok (token, rest))
    (hlist : token ≠ .sequence) (hobject : token ≠ .object) :
    ∃ v : Json, v.token = token ∧ value size depth text = .ok (v, rest) := by
  unfold value
  rw [h]
  cases token with
  | sequence => exact absurd rfl hlist
  | object => exact absurd rfl hobject
  | null => exact ⟨.null, rfl, rfl⟩
  | flag b => exact ⟨.flag b, rfl, rfl⟩
  | number n => exact ⟨.number n, rfl, rfl⟩
  | text s => exact ⟨.text s, rfl, rfl⟩

end Document

namespace Scalar

variable {scalar : Scalar α}

theorem read_eq_ok_iff : scalar.read input = .ok (a, rest) ↔
    ∃ token, Lexer.token input = .ok (token, rest) ∧ scalar.accept token = .ok a := by
  unfold read
  constructor
  · intro h
    split at h
    case h_1 => cases h
    case h_2 token after htoken =>
      split at h
      case h_1 haccept =>
        cases h
        exact ⟨token, htoken, haccept⟩
      case h_2 => cases h
      case h_3 => cases h
  · rintro ⟨token, htoken, haccept⟩
    rw [htoken]
    dsimp only
    rw [haccept]

theorem decode_eq_ok_iff : scalar.decode text = .ok a ↔ ∃ token rest,
    Lexer.token text = .ok (token, rest) ∧ scalar.accept token = .ok a ∧
      ∀ b ∈ rest, Lexer.isBlank b := by
  rw [decode, Document.whole_eq_ok_iff]
  simp only [read_eq_ok_iff]
  constructor
  · rintro ⟨rest, ⟨token, htoken, haccept⟩, hrest⟩
    exact ⟨token, rest, htoken, haccept, hrest⟩
  · rintro ⟨token, rest, htoken, haccept, hrest⟩
    exact ⟨rest, ⟨token, htoken, haccept⟩, hrest⟩

theorem read_iff_decode (hlist : scalar.accept .sequence ≠ .ok a)
    (hobject : scalar.accept .object ≠ .ok a) :
    (∃ v, Json.read text = .ok v ∧ scalar.ofJson v = .ok a) ↔ scalar.decode text = .ok a := by
  rw [decode_eq_ok_iff]
  constructor
  · rintro ⟨v, hread, haccept⟩
    obtain ⟨rest, hvalue, hrest⟩ := Document.whole_eq_ok_iff.1 hread
    have htoken := Document.token_of_value hvalue
    cases v with
    | sequence items => exact absurd haccept hlist
    | object members => exact absurd haccept hobject
    | null | flag | number | text => exact ⟨_, rest, htoken nofun nofun, haccept, hrest⟩
  · rintro ⟨token, rest, htoken, haccept, hrest⟩
    obtain ⟨v, hv, hvalue⟩ := Document.value_of_token htoken
      (fun heq => hlist (heq ▸ haccept)) fun heq => hobject (heq ▸ haccept)
    refine ⟨v, Document.whole_eq_ok_iff.2 ⟨rest, hvalue, hrest⟩, ?_⟩
    rw [ofJson, hv, haccept]

end Scalar

end Bulletin.Json
