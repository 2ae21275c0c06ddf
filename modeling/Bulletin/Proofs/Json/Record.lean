import Bulletin.Json.Record
import Bulletin.Proofs.Dialogue
import Bulletin.Proofs.Json.Whole

namespace Bulletin.Json

variable {δ α β : Type} {input rest value : Bytes} {name : String} {members : List (String × Bytes)}

namespace Write

def further (members : List (String × Bytes)) : Bytes :=
  members.flatMap fun (name, value) => Ascii.comma :: member name value

theorem intercalate_cons (text : Bytes) (texts : List Bytes) :
    [Ascii.comma].intercalate (text :: texts) = text ++ texts.flatMap (Ascii.comma :: ·) := by
  induction texts generalizing text with
  | nil => simp
  | cons next texts ih =>
    rw [List.intercalate_cons_cons, ih, List.flatMap_cons]
    simp

theorem object_cons (name : String) (value : Bytes) (members : List (String × Bytes)) :
    object ((name, value) :: members) =
      Ascii.openBrace :: (member name value ++ (further members ++ [Ascii.closeBrace])) := by
  rw [object, List.map_cons, intercalate_cons, List.flatMap_map, List.cons_append,
    List.append_assoc]
  rfl

theorem member_append (name : String) (value rest : Bytes) : member name value ++ rest =
    Ascii.quote ::
      ((utf8 name).flatMap escape ++ Ascii.quote :: Ascii.colon :: (value ++ rest)) := by
  simp [member, text]

theorem length_flatMap_cons (b : UInt8) (write : α → Bytes) (parts : List α) :
    parts.length ≤ (parts.flatMap fun part => b :: write part).length := by
  induction parts with
  | nil => exact Nat.le_refl 0
  | cons part parts ih =>
    rw [List.flatMap_cons, List.length_append, List.length_cons, List.length_cons]
    omega

theorem length_further (members : List (String × Bytes)) :
    members.length ≤ (further members).length :=
  length_flatMap_cons Ascii.comma (fun m : String × Bytes => member m.1 m.2) members

theorem length_object (members : List (String × Bytes)) :
    members.length ≤ (object members).length := by
  cases members with
  | nil => exact Nat.zero_le _
  | cons m members =>
    have := length_further members
    rw [object_cons]
    simp only [List.length_cons, List.length_append]
    omega

end Write

theorem Member.read_of_iff {scalar : Scalar β} {get : δ → Option β} {set : β → δ → δ}
    {draft draft' : δ} : (Member.of name scalar get set).read draft input = .ok (draft', rest) ↔
      ∃ b, scalar.read input = .ok (b, rest) ∧ set b draft = draft' := by
  change (scalar.read input).map _ = _ ↔ _
  cases scalar.read input with
  | error f => exact ⟨nofun, nofun⟩
  | ok part =>
    obtain ⟨b, after⟩ := part
    simp [Except.map, and_comm]

namespace Record

variable {r : Record δ α} {draft draft' last : δ} {size n : Nat} {a : α}

theorem fillMember_eq_ok_iff : r.fillMember size draft input = .ok (draft', rest) ↔
    ∃ name after value, Literal.read input = .ok (name, after) ∧ Lexer.colon after = .ok value ∧
      match r.members.find? (·.name = name) with
      | some m => m.isFilled draft = false ∧ m.read draft value = .ok (draft', rest)
      | none => draft = draft' ∧ Lexer.skip size .value [] value = .ok rest := by
  unfold fillMember
  simp only [bind_eq_ok_iff, Prod.exists]
  refine exists_congr fun name => exists_congr fun after => ?_
  rw [exists_and_left]
  refine and_congr_right fun _ => ?_
  cases r.members.find? (·.name = name) with
  | some m =>
    cases hfilled : m.isFilled draft with
    | true => simp [hfilled, throw, throwThe, MonadExceptOf.throw, bind, Except.bind]
    | false => simp [hfilled, bind_eq_ok_iff]
  | none => simp [bind_eq_ok_iff, pure, Except.pure, and_comm]

theorem complete_eq_ok_iff {after : Bytes} :
    r.complete draft input = .ok (a, after) ↔ r.finish draft = .ok a ∧ input = after := by
  unfold complete
  cases r.finish draft <;> simp

def Drafts (r : Record δ α) (size : Nat) (input : Bytes) (draft : δ) (rest : Bytes) : Prop :=
  (∃ after, Lexer.token input = .ok (.object, after) ∧
      r.fill size size true r.blank (after.drop 1) = .ok (draft, rest)) ∨
    ∃ after, Lexer.token input = .ok (.sequence, after) ∧
      r.fillInOrder r.members 0 r.blank (after.drop 1) = .ok (draft, rest)

theorem read_eq_ok_iff : r.read size input = .ok (a, rest) ↔
    ∃ draft, r.Drafts size input draft rest ∧ r.finish draft = .ok a := by
  unfold read
  constructor
  · intro h
    split at h
    case h_1 => cases h
    case h_2 after htoken =>
      split at h
      case h_1 => cases h
      case h_2 draft input hfill =>
        obtain ⟨hfinish, rfl⟩ := complete_eq_ok_iff.1 h
        exact ⟨draft, .inl ⟨after, htoken, hfill⟩, hfinish⟩
    case h_3 after htoken =>
      split at h
      case h_1 => cases h
      case h_2 draft input hfill =>
        obtain ⟨hfinish, rfl⟩ := complete_eq_ok_iff.1 h
        exact ⟨draft, .inr ⟨after, htoken, hfill⟩, hfinish⟩
    case h_4 => cases h
  · rintro ⟨draft, ⟨after, htoken, hfill⟩ | ⟨after, htoken, hfill⟩, hfinish⟩
    all_goals
      rw [htoken]
      dsimp only
      rw [hfill]
      exact complete_eq_ok_iff.2 ⟨hfinish, rfl⟩

/-- Members that take a draft to another, one after the other. -/
inductive Fills (r : Record δ α) : δ → List (String × Bytes) → δ → Prop
  | nil {draft : δ} : Fills r draft [] draft
  | cons {draft draft' last : δ} {m : Member δ} {name : String} {value : Bytes}
    {members : List (String × Bytes)} :
    r.members.find? (·.name = name) = some m → m.isFilled draft = false →
    (∀ rest, Closes rest → m.read draft (value ++ rest) = .ok (draft', rest)) →
    Fills r draft' members last → Fills r draft ((name, value) :: members) last

theorem Fills.of {scalar : Scalar β} {get : δ → Option β} {set : β → δ → δ} {b : β}
    (hfind : r.members.find? (·.name = name) = some (.of name scalar get set))
    (hget : get draft = none) (hspells : scalar.Spells value b)
    (hmembers : Fills r (set b draft) members last) :
    Fills r draft ((name, value) :: members) last := by
  refine .cons hfind ?_ ?_ hmembers
  · change (get draft).isSome = false
    rw [hget]
    rfl
  · intro rest hrest
    exact Member.read_of_iff.2 ⟨b, hspells rest hrest, rfl⟩

theorem fillMember_written (size : Nat) {m : Member δ}
    (hfind : r.members.find? (·.name = name) = some m)
    (hunfilled : m.isFilled draft = false)
    (hread : m.read draft (value ++ rest) = .ok (draft', rest)) :
    r.fillMember size draft ((utf8 name).flatMap Write.escape ++
      Ascii.quote :: Ascii.colon :: (value ++ rest)) = .ok (draft', rest) := by
  unfold fillMember
  rw [Literal.read_escape, ok_bind]
  dsimp only
  rw [hfind]
  simp only [hunfilled, Bool.false_eq_true, if_false]
  exact hread

theorem closes_further (members : List (String × Bytes)) (rest : Bytes) :
    Closes (Write.further members ++ Ascii.closeBrace :: rest) := by
  cases members with
  | nil => exact ⟨_, rest, rfl, .inr rfl⟩
  | cons m members => exact ⟨_, _, rfl, .inl rfl⟩

theorem fill_step {first : Bool} {input name rest : Bytes}
    (hnext : Lexer.nextMember first input = .ok (true, name))
    (hmember : r.fillMember size draft name = .ok (draft', rest)) :
    r.fill size (n + 1) first draft input = r.fill size n false draft' rest := by
  rw [fill, hnext]
  dsimp only
  rw [hmember]

theorem fill_further (h : r.Fills draft members last) (hn : members.length < n) :
    r.fill size n false draft (Write.further members ++ Ascii.closeBrace :: rest) =
      .ok (last, rest) := by
  induction h generalizing n with
  | nil =>
    cases n with
    | zero => cases hn
    | succ n => rfl
  | @cons draft draft' last m name value members hfind hunfilled hread _ ih =>
    cases n with
    | zero => cases hn
    | succ n =>
      have hmember := fillMember_written size hfind hunfilled
        (hread _ (closes_further members rest))
      have hsplit : Write.further ((name, value) :: members) ++ Ascii.closeBrace :: rest =
          Ascii.comma :: Ascii.quote :: ((utf8 name).flatMap Write.escape ++ Ascii.quote ::
            Ascii.colon :: (value ++ (Write.further members ++ Ascii.closeBrace :: rest))) := by
        rw [← Write.member_append]
        simp [Write.further]
      rw [hsplit, fill_step rfl hmember]
      exact ih (Nat.lt_of_succ_lt_succ hn)

theorem read_object (h : r.Fills r.blank ((name, value) :: members) last)
    (hfinish : r.finish last = .ok a) (hsize : members.length + 1 < size) :
    r.read size (Write.object ((name, value) :: members)) = .ok (a, []) := by
  have hfill : r.fill size size true r.blank ((Write.object ((name, value) :: members)).drop 1) =
      .ok (last, []) := by
    rw [Write.object_cons, List.drop_one, List.tail_cons, Write.member_append]
    cases size with
    | zero => cases hsize
    | succ n => cases h with
      | cons hfind hunfilled hread hmembers =>
        have hmember := fillMember_written (n + 1) hfind hunfilled
          (hread _ (closes_further members []))
        rw [fill_step rfl hmember]
        exact fill_further hmembers (Nat.lt_of_succ_lt_succ hsize)
  have htoken : Lexer.token (Write.object ((name, value) :: members)) =
      .ok (.object, Write.object ((name, value) :: members)) := by
    rw [Write.object_cons]
    rfl
  exact read_eq_ok_iff.2 ⟨last, .inl ⟨_, htoken, hfill⟩, hfinish⟩

theorem decode_object (h : r.Fills r.blank ((name, value) :: members) last)
    (hfinish : r.finish last = .ok a) :
    r.decode (Write.object ((name, value) :: members)) = .ok a := by
  have hsize : members.length + 1 < (Write.object ((name, value) :: members)).length + 1 :=
    Nat.lt_succ_of_le (Write.length_object ((name, value) :: members))
  exact Document.whole_eq_ok_iff.2 ⟨[], read_object h hfinish hsize, nofun⟩

section Keeps

variable {I : δ → Prop}
variable (hmembers : ∀ m ∈ r.members, ∀ draft input, I draft → Ensures (I ·.1) (m.read draft input))
include hmembers

theorem fillMember_keeps (input : Bytes) (hdraft : I draft) :
    Ensures (I ·.1) (r.fillMember size draft input) := by
  rintro ⟨draft', rest⟩ hread
  obtain ⟨name, after, value, -, -, hmember⟩ := fillMember_eq_ok_iff.1 hread
  split at hmember
  case h_1 m hfind =>
    exact hmembers m (List.mem_of_find?_eq_some hfind) draft value hdraft _ hmember.2
  case h_2 => exact hmember.1 ▸ hdraft

theorem fill_keeps {first : Bool} (input : Bytes) (hdraft : I draft) :
    Ensures (I ·.1) (r.fill size n first draft input) := by
  induction n generalizing first draft input with
  | zero => exact nofun
  | succ n ih =>
    unfold fill
    split
    case h_1 => exact nofun
    case h_2 =>
      rintro _ ⟨⟩
      exact hdraft
    case h_3 input _ =>
      split
      case h_1 => exact nofun
      case h_2 draft' input' hmember =>
        exact ih input' (fillMember_keeps hmembers input hdraft _ hmember)

theorem fillInOrder_keeps {ms : List (Member δ)} (hms : ∀ m ∈ ms, m ∈ r.members) (i : Nat)
    (input : Bytes) (hdraft : I draft) : Ensures (I ·.1) (r.fillInOrder ms i draft input) := by
  induction ms generalizing i draft input with
  | nil =>
    unfold fillInOrder
    cases Lexer.endList input with
    | error f => exact nofun
    | ok input =>
      rintro _ ⟨⟩
      exact hdraft
  | cons m ms ih =>
    unfold fillInOrder
    split
    case h_1 => exact nofun
    case h_2 => exact nofun
    case h_3 input _ =>
      split
      case h_1 => exact nofun
      case h_2 draft' input' hread =>
        exact ih (fun m hm => hms m (List.mem_cons_of_mem _ hm)) _ _
          (hmembers m (hms m List.mem_cons_self) draft input hdraft _ hread)

theorem drafts_keep (hblank : I r.blank) (h : r.Drafts size input draft rest) :
    I draft := by
  obtain ⟨after, -, hfill⟩ | ⟨after, -, hfill⟩ := h
  · exact fill_keeps hmembers _ hblank _ hfill
  · exact fillInOrder_keeps hmembers (fun _ hm => hm) 0 _ hblank _ hfill

theorem decode_keeps (hblank : I r.blank) :
    Ensures (fun a => ∃ draft, I draft ∧ r.finish draft = .ok a) (r.decode input) := by
  intro a h
  obtain ⟨rest, hread, -⟩ := Document.whole_eq_ok_iff.1 h
  obtain ⟨draft, hdraft, hfinish⟩ := read_eq_ok_iff.1 hread
  exact ⟨draft, drafts_keep hmembers hblank hdraft, hfinish⟩

end Keeps

theorem ensures_of {scalar : Scalar β} {get : δ → Option β} {set : β → δ → δ} {I : δ → Prop}
    (h : ∀ token b, scalar.accept token = .ok b → I (set b draft)) :
    Ensures (I ·.1) ((Member.of name scalar get set).read draft input) := by
  rintro ⟨draft', rest⟩ hread
  obtain ⟨b, hscalar, rfl⟩ := Member.read_of_iff.1 hread
  obtain ⟨token, -, haccept⟩ := Scalar.read_eq_ok_iff.1 hscalar
  exact h token b haccept

end Record

end Bulletin.Json
