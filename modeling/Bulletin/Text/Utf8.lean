namespace Bulletin

abbrev Bytes := List UInt8

def utf8 (s : String) : Bytes := s.toUTF8.data.toList

def ofUtf8? (bytes : Bytes) : Option String := String.fromUTF8? ⟨bytes.toArray⟩

@[simp] theorem ofUtf8?_utf8 (s : String) : ofUtf8? (utf8 s) = some s := by
  have h : (⟨(utf8 s).toArray⟩ : ByteArray) = s.toByteArray := by simp [utf8, String.toUTF8]
  rw [ofUtf8?, h, String.fromUTF8?, dif_pos s.isValidUTF8]
  rfl

theorem ofUtf8?_eq_some_iff {bytes : Bytes} {s : String} :
    ofUtf8? bytes = some s ↔ utf8 s = bytes := by
  constructor
  · intro h
    unfold ofUtf8? String.fromUTF8? at h
    split at h
    · obtain rfl := Option.some.inj h
      exact List.toList_toArray
    · cases h
  · rintro rfl; exact ofUtf8?_utf8 s

namespace Utf8

def validLength (bytes : Bytes) : Nat :=
  go ⟨bytes.toArray⟩ bytes.length 0
where
  go (a : ByteArray) : Nat → Nat → Nat
    | 0, i => i
    | n + 1, i => match a.utf8DecodeChar? i with
      | some c => go a n (i + c.utf8Size)
      | none => i

def followers (first : UInt8) : List (UInt8 × UInt8) :=
  if 0xC2 ≤ first ∧ first ≤ 0xDF then [any]
  else if first = 0xE0 then [(0xA0, 0xBF), any]
  else if first = 0xED then [(0x80, 0x9F), any]
  else if 0xE1 ≤ first ∧ first ≤ 0xEF then [any, any]
  else if first = 0xF0 then [(0x90, 0xBF), any, any]
  else if 0xF1 ≤ first ∧ first ≤ 0xF3 then [any, any, any]
  else if first = 0xF4 then [(0x80, 0x8F), any, any]
  else []
where
  any : UInt8 × UInt8 := (0x80, 0xBF)

/-- Bytes that are no character: where they start, and how many could have begun one. There is no
number if the whole text could have gone on. -/
structure Fault where
  index : Nat
  length : Option Nat
  deriving DecidableEq, Repr

def Fault.message (f : Fault) : String :=
  match f.length with
  | some n =>
    "invalid utf-8 sequence of " ++ toString n ++ " bytes from index " ++ toString f.index
  | none => "incomplete utf-8 byte sequence from index " ++ toString f.index

def brokenLength : List (UInt8 × UInt8) → Bytes → Option Nat
  | [], _ => some 1
  | _ :: _, [] => none
  | (least, greatest) :: more, b :: rest =>
    if least ≤ b ∧ b ≤ greatest then (brokenLength more rest).map (· + 1) else some 1

def fault? (bytes : Bytes) : Option Fault :=
  let index := validLength bytes
  match bytes.drop index with
  | [] => none
  | b :: rest => some ⟨index, brokenLength (followers b) rest⟩

def replacement : Bytes := [0xEF, 0xBF, 0xBD]

def repair : Nat → Bytes → Bytes
  | 0, _ | _, [] => []
  | n + 1, b :: rest =>
    let more := (followers b).length
    match brokenLength (followers b) rest with
    | none => replacement
    | some length =>
      if b < 128 ∨ (0 < more ∧ length = more + 1) then b :: rest.take more ++ repair n (rest.drop more)
      else replacement ++ repair n (rest.drop (length - 1))

def lossy (bytes : Bytes) : String := (ofUtf8? (repair bytes.length bytes)).getD ""

end Utf8

end Bulletin
