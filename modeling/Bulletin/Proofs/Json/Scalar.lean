import Bulletin.Json.Scalar
import Bulletin.Proofs.Json.Literal
import Bulletin.Proofs.Text.Numeral

namespace Bulletin.Json

open Bulletin.Numeral (isDigit)

variable {α : Type} {rest : Bytes} {n : Nat}

def Closes (rest : Bytes) : Prop :=
  ∃ b more, rest = b :: more ∧ (b = Ascii.comma ∨ b = Ascii.closeBrace)

def Numeral.Ends (rest : Bytes) : Prop :=
  ∀ b ∈ rest.head?, isDigit b = false ∧ b ≠ Ascii.point ∧ Numeral.isExponentMark b = false

theorem Closes.ends (h : Closes rest) : Numeral.Ends rest := by
  obtain ⟨b, more, rfl, rfl | rfl⟩ := h <;> rintro _ ⟨⟩ <;> decide

namespace Numeral

theorem le_foldl (ds : Bytes) (n : Nat) :
    n ≤ ds.foldl (fun n d => 10 * n + Bulletin.Numeral.digit d) n := by
  induction ds generalizing n with
  | nil => exact Nat.le_refl n
  | cons d ds ih =>
    have hnext : n ≤ 10 * n + Bulletin.Numeral.digit d := by omega
    exact Nat.le_trans hnext (ih _)

theorem absorb_of_lt {ds : Bytes}
    (h : ds.foldl (fun n d => 10 * n + Bulletin.Numeral.digit d) n < UInt64.size) :
    absorb n ds = (ds.foldl (fun n d => 10 * n + Bulletin.Numeral.digit d) n, 0) := by
  induction ds generalizing n with
  | nil => rfl
  | cons d ds ih =>
    have hnext := Nat.lt_of_le_of_lt (le_foldl ds _) h
    rw [absorb]
    exact (if_pos hnext).trans (ih h)

theorem absorb_write (h : n < UInt64.size) : absorb 0 (Bulletin.Numeral.write n) = (n, 0) := by
  have hvalue : Bulletin.Numeral.value (Bulletin.Numeral.write n) = n := value_toDigits n
  rw [Bulletin.Numeral.value] at hvalue
  rw [absorb_of_lt (by rwa [hvalue]), hvalue]

theorem continuation_ends (hrest : Ends rest) :
    continuation false n 0 rest = .ok (.natural n.toUInt64, rest) := by
  cases rest with
  | nil => rfl
  | cons b rest =>
    obtain ⟨-, hpoint, hmark⟩ := hrest b rfl
    unfold continuation
    split
    case h_1 heq => exact absurd (List.cons.inj heq).1 hpoint
    case h_2 heq => cases heq
    case h_3 heq =>
      cases heq
      rw [hmark]
      rfl

theorem read_write (h : n < UInt64.size) (hrest : Ends rest) :
    read false (Bulletin.Numeral.write n ++ rest) = .ok (.natural n.toUInt64, rest) := by
  have hnodigit : ∀ b ∈ rest.head?, isDigit b = false := fun b hb => (hrest b hb).1
  by_cases hzero : n = 0
  · subst hzero
    have hcontinuation := continuation_ends (n := 0) hrest
    cases rest with
    | nil => exact hcontinuation
    | cons b rest => exact (if_neg (by simp [hnodigit b rfl])).trans hcontinuation
  · have hspan := Bulletin.Numeral.span_run (Bulletin.Numeral.isDigit_of_mem_write (n := n))
      hnodigit
    have hhead := Bulletin.Numeral.head?_write hzero
    have habsorb := absorb_write h
    have hdigits := Bulletin.Numeral.isDigit_of_mem_write (n := n)
    cases hwrite : Bulletin.Numeral.write n with
    | nil => exact absurd hwrite Bulletin.Numeral.write_ne_nil
    | cons d ds =>
      rw [hwrite] at hspan hhead habsorb hdigits
      have hd : isDigit d := hdigits d List.mem_cons_self
      have hne : d ≠ Ascii.zero := fun heq => hhead (congrArg some heq)
      rw [List.cons_append] at hspan ⊢
      unfold read
      simp only [hd, Bool.not_true, Bool.false_eq_true, if_false, if_neg hne, hspan, habsorb]
      exact continuation_ends hrest

end Numeral

namespace Lexer

theorem token_text (s : String) : token (Write.text s ++ rest) = .ok (.text s, rest) := by
  have hread := Literal.read_escape s rest
  have hwritten : Write.text s ++ rest =
      Ascii.quote :: ((utf8 s).flatMap Write.escape ++ Ascii.quote :: rest) := by
    simp [Write.text]
  rw [hwritten]
  change (Literal.read _).map _ = _
  rw [hread]
  rfl

theorem token_flag (b : Bool) : token (Write.flag b ++ rest) = .ok (.flag b, rest) := by
  cases b <;> rfl

theorem isBlank_of_isDigit {b : UInt8} : isDigit b → isBlank b = false := by
  revert b
  apply forall_byte
  decide +kernel

theorem token_of_isDigit {b : UInt8} (h : isDigit b) :
    token (b :: rest) = token.number false (b :: rest) := by
  have hskip : skipBlanks (b :: rest) = b :: rest := by
    rw [skipBlanks, List.dropWhile_cons_of_neg (by rw [isBlank_of_isDigit h]; decide)]
  rw [token, hskip]
  dsimp only
  have hnot (c : Char) (hc : c.isDigit = false) : Char.ofUInt8 b ≠ c := by
    rintro rfl
    rw [isDigit, hc] at h
    cases h
  split
  case h_8 => exact if_pos h
  all_goals exact absurd ‹Char.ofUInt8 b = _› (hnot _ (by decide))

theorem token_natural (h : n < UInt64.size) (hrest : Numeral.Ends rest) :
    token (Write.natural n ++ rest) = .ok (.number (.natural n.toUInt64), rest) := by
  have hread := Numeral.read_write h hrest
  have hdigits := Bulletin.Numeral.isDigit_of_mem_write (n := n)
  rw [Write.natural]
  cases hwrite : Bulletin.Numeral.write n with
  | nil => exact absurd hwrite Bulletin.Numeral.write_ne_nil
  | cons d ds =>
    rw [hwrite] at hread hdigits
    rw [List.cons_append] at hread ⊢
    rw [token_of_isDigit (hdigits d List.mem_cons_self), token.number, hread]
    rfl

end Lexer

namespace Scalar

variable {scalar : Scalar α} {text : Bytes} {a : α}

/-- The text is read as the value, whatever object it stands in. -/
def Spells (scalar : Scalar α) (text : Bytes) (a : α) : Prop :=
  ∀ rest, Closes rest → scalar.read (text ++ rest) = .ok (a, rest)

theorem spells_of_token {token : Token} (haccept : scalar.accept token = .ok a)
    (htoken : ∀ rest, Closes rest → Lexer.token (text ++ rest) = .ok (token, rest)) :
    scalar.Spells text a := by
  intro rest hrest
  rw [read, htoken rest hrest]
  dsimp only
  rw [haccept]

theorem spells_text {s : String} (haccept : scalar.accept (.text s) = .ok a) :
    scalar.Spells (Write.text s) a :=
  spells_of_token haccept fun _ _ => Lexer.token_text s

theorem spells_flag (b : Bool) : flag.Spells (Write.flag b) b :=
  spells_of_token rfl fun _ _ => Lexer.token_flag b

theorem spells_natural (haccept : scalar.accept (.number (.natural n.toUInt64)) = .ok a)
    (h : n < UInt64.size) : scalar.Spells (Write.natural n) a :=
  spells_of_token haccept fun _ hrest => Lexer.token_natural h hrest.ends

end Scalar

end Bulletin.Json
