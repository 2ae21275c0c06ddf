import Bulletin.Proofs.Json.Record
import Bulletin.Proofs.Time.Rfc3339
import Bulletin.View.Wire

namespace Bulletin

open Json (Scalar)

theorem Id.spells {entity : Entity} (id : Id entity) : Id.scalar.Spells id.write id := by
  apply Scalar.spells_natural
  · change Except.ok (Id.mk id.number.toNat.toUInt64) = .ok id
    rw [Nat.toUInt64, UInt64.ofNat_toNat]
  · exact id.number.toNat_lt

theorem Email.spells (e : Email) : Email.scalar.Spells e.write e := by
  apply Scalar.spells_text
  change (Email.ofText e.text).mapError _ = _
  rw [Email.ofText_text]
  rfl

namespace Timestamp

variable {t : Timestamp}

theorem escape_of_isMark {b : UInt8} :
    Rfc3339.isMark b → Json.Write.escape b = [b] ∧ b < 128 := by
  revert b
  apply forall_byte
  decide +kernel

theorem text_of_write {text : Bytes} (h : t.write? = some text) :
    ∃ s, text = Json.Write.text s ∧ Rfc3339.write? t = some (utf8 s) := by
  obtain ⟨plain, hwrite, rfl⟩ := Option.map_eq_some_iff.1 h
  have hmark := Rfc3339.isMark_of_mem_write hwrite
  obtain ⟨s, rfl⟩ := exists_utf8_eq fun b hb => (escape_of_isMark (hmark b hb)).2
  have hescape : (utf8 s).flatMap Json.Write.escape = utf8 s := by
    refine (List.flatMap_congr fun b hb => (escape_of_isMark (hmark b hb)).1).trans ?_
    exact List.flatMap_singleton' _
  exact ⟨s, by rw [Json.Write.text, hescape], hwrite⟩

theorem spells (h : t.Expressible) :
    ∃ text, t.write? = some text ∧ Timestamp.scalar.Spells text t := by
  obtain ⟨plain, hplain, hread⟩ := Rfc3339.read_write h
  have hwrite : t.write? = some (Ascii.quote :: plain ++ [Ascii.quote]) := by
    rw [write?, hplain]
    rfl
  obtain ⟨s, hs, hutf8⟩ := text_of_write hwrite
  obtain rfl : plain = utf8 s := Option.some.inj (hplain.symm.trans hutf8)
  refine ⟨_, hwrite, hs ▸ ?_⟩
  apply Scalar.spells_text
  change (Rfc3339.read (utf8 s)).mapError _ = _
  rw [hread]
  rfl

theorem expressible_of_accept {token : Json.Token} (h : scalar.accept token = .ok t) :
    t.Expressible := by
  cases token with
  | text s =>
    change (Rfc3339.read (utf8 s)).mapError _ = _ at h
    cases hread : Rfc3339.read (utf8 s) with
    | error fault =>
      rw [hread] at h
      cases h
    | ok t =>
      rw [hread] at h
      cases h
      exact Rfc3339.expressible_of_read _ hread
  | _ => cases h

/-- Of two times that a reader fills in, those that it has can be expressed. -/
structure Filled (created? updated? : Option Timestamp) : Prop where
  created : ∀ t ∈ created?, t.Expressible
  updated : ∀ t ∈ updated?, t.Expressible

section Filled

variable {created? updated? : Option Timestamp} (h : Filled created? updated?)
include h

theorem Filled.withCreated {token : Json.Token} (haccept : scalar.accept token = .ok t) :
    Filled (some t) updated? where
  created _ ht := Option.some.inj ht ▸ expressible_of_accept haccept
  updated := h.updated

theorem Filled.withUpdated {token : Json.Token} (haccept : scalar.accept token = .ok t) :
    Filled created? (some t) where
  created := h.created
  updated _ ht := Option.some.inj ht ▸ expressible_of_accept haccept

end Filled

end Timestamp

theorem need_eq_ok_iff {α : Type} {name : String} {a? : Option α} {a : α} :
    need name a? = .ok a ↔ a? = some a := by
  cases a? <;> simp [need]

namespace User

structure Expressible (u : User) : Prop where
  createdAt : u.createdAt.Expressible
  updatedAt : u.updatedAt.Expressible

def toDraft (u : User) : Draft :=
  ⟨u.id, u.email, u.firstName, u.lastName, u.isActive, u.createdAt, u.updatedAt⟩

theorem finish_iff {draft : Draft} {u : User} : draft.finish = .ok u ↔ draft = u.toDraft := by
  obtain ⟨id, email, firstName, lastName, isActive, createdAt, updatedAt⟩ := draft
  simp only [Draft.finish, bind_eq_ok_iff, need_eq_ok_iff, pure, Except.pure, Except.ok.injEq]
  constructor
  · rintro ⟨_, rfl, _, rfl, _, rfl, _, rfl, _, rfl, _, rfl, _, rfl, rfl⟩
    rfl
  · rintro ⟨⟩
    exact ⟨_, rfl, _, rfl, _, rfl, _, rfl, _, rfl, _, rfl, _, rfl, rfl⟩

theorem decode_write {u : User} (h : u.Expressible) :
    ∃ text, u.write? = some text ∧ record.decode text = .ok u := by
  obtain ⟨created, hcreated, hspellsCreated⟩ := Timestamp.spells h.createdAt
  obtain ⟨updated, hupdated, hspellsUpdated⟩ := Timestamp.spells h.updatedAt
  refine ⟨_, by rw [write?, hcreated, hupdated]; rfl, ?_⟩
  have hfills : record.Fills record.blank [("id", u.id.write), ("email", u.email.write),
      ("first_name", Json.Write.text u.firstName), ("last_name", Json.Write.text u.lastName),
      ("is_active", Json.Write.flag u.isActive), ("created_at", created), ("updated_at", updated)]
      u.toDraft := by
    apply Json.Record.Fills.of rfl rfl u.id.spells
    apply Json.Record.Fills.of rfl rfl u.email.spells
    apply Json.Record.Fills.of rfl rfl (Scalar.spells_text rfl)
    apply Json.Record.Fills.of rfl rfl (Scalar.spells_text rfl)
    apply Json.Record.Fills.of rfl rfl (Scalar.spells_flag _)
    apply Json.Record.Fills.of rfl rfl hspellsCreated
    apply Json.Record.Fills.of rfl rfl hspellsUpdated
    exact .nil
  exact Json.Record.decode_object hfills (finish_iff.2 rfl)

def Draft.Filled (d : Draft) : Prop := Timestamp.Filled d.createdAt d.updatedAt

theorem members_keep : ∀ m ∈ record.members, ∀ d input, Draft.Filled d →
    Ensures (fun part => part.1.Filled) (m.read d input) := by
  intro m hm d input hd
  simp only [record, List.mem_cons, List.not_mem_nil, or_false] at hm
  rcases hm with rfl | rfl | rfl | rfl | rfl | rfl | rfl
  all_goals try exact Json.Record.ensures_of fun _ _ _ => hd
  · exact Json.Record.ensures_of fun _ _ haccept => Timestamp.Filled.withCreated hd haccept
  · exact Json.Record.ensures_of fun _ _ haccept => Timestamp.Filled.withUpdated hd haccept

theorem expressible_of_decode {input : Bytes} : Ensures User.Expressible (record.decode input) := by
  intro u hu
  obtain ⟨d, hd, hfinish⟩ := Json.Record.decode_keeps members_keep ⟨nofun, nofun⟩ u hu
  rw [finish_iff.1 hfinish] at hd
  exact ⟨hd.created _ rfl, hd.updated _ rfl⟩

end User

namespace PostView

structure Expressible (v : PostView) : Prop where
  createdAt : v.post.createdAt.Expressible
  updatedAt : v.post.updatedAt.Expressible

def toDraft (v : PostView) : Draft :=
  ⟨v.post.id, v.post.title, v.post.content, v.post.author, v.authorName, v.post.published,
    v.post.createdAt, v.post.updatedAt⟩

theorem finish_iff {draft : Draft} {v : PostView} : draft.finish = .ok v ↔ draft = v.toDraft := by
  obtain ⟨id, title, content, author, authorName, published, createdAt, updatedAt⟩ := draft
  simp only [Draft.finish, bind_eq_ok_iff, need_eq_ok_iff, pure, Except.pure, Except.ok.injEq]
  constructor
  · rintro ⟨_, rfl, _, rfl, _, rfl, _, rfl, _, rfl, _, rfl, _, rfl, _, rfl, rfl⟩
    rfl
  · rintro ⟨⟩
    exact ⟨_, rfl, _, rfl, _, rfl, _, rfl, _, rfl, _, rfl, _, rfl, _, rfl, rfl⟩

theorem decode_write {v : PostView} (h : v.Expressible) :
    ∃ text, v.write? = some text ∧ record.decode text = .ok v := by
  obtain ⟨created, hcreated, hspellsCreated⟩ := Timestamp.spells h.createdAt
  obtain ⟨updated, hupdated, hspellsUpdated⟩ := Timestamp.spells h.updatedAt
  refine ⟨_, by rw [write?, hcreated, hupdated]; rfl, ?_⟩
  have hfills : record.Fills record.blank [("id", v.post.id.write),
      ("title", Json.Write.text v.post.title), ("content", Json.Write.text v.post.content),
      ("author", v.post.author.write), ("author_name", Json.Write.text v.authorName),
      ("published", Json.Write.flag v.post.published), ("created_at", created),
      ("updated_at", updated)] v.toDraft := by
    apply Json.Record.Fills.of rfl rfl v.post.id.spells
    apply Json.Record.Fills.of rfl rfl (Scalar.spells_text rfl)
    apply Json.Record.Fills.of rfl rfl (Scalar.spells_text rfl)
    apply Json.Record.Fills.of rfl rfl v.post.author.spells
    apply Json.Record.Fills.of rfl rfl (Scalar.spells_text rfl)
    apply Json.Record.Fills.of rfl rfl (Scalar.spells_flag _)
    apply Json.Record.Fills.of rfl rfl hspellsCreated
    apply Json.Record.Fills.of rfl rfl hspellsUpdated
    exact .nil
  exact Json.Record.decode_object hfills (finish_iff.2 rfl)

def Draft.Filled (d : Draft) : Prop := Timestamp.Filled d.createdAt d.updatedAt

theorem members_keep : ∀ m ∈ record.members, ∀ d input, Draft.Filled d →
    Ensures (fun part => part.1.Filled) (m.read d input) := by
  intro m hm d input hd
  simp only [record, List.mem_cons, List.not_mem_nil, or_false] at hm
  rcases hm with rfl | rfl | rfl | rfl | rfl | rfl | rfl | rfl
  all_goals try exact Json.Record.ensures_of fun _ _ _ => hd
  · exact Json.Record.ensures_of fun _ _ haccept => Timestamp.Filled.withCreated hd haccept
  · exact Json.Record.ensures_of fun _ _ haccept => Timestamp.Filled.withUpdated hd haccept

theorem expressible_of_decode {input : Bytes} :
    Ensures PostView.Expressible (record.decode input) := by
  intro v hv
  obtain ⟨d, hd, hfinish⟩ := Json.Record.decode_keeps members_keep ⟨nofun, nofun⟩ v hv
  rw [finish_iff.1 hfinish] at hd
  exact ⟨hd.created _ rfl, hd.updated _ rfl⟩

end PostView

/-- Reading undoes writing: a view whose times can be expressed is written, and read back as it was;
and a view that was read, from an object or a list, can be written and read once more. -/
theorem read_undoes_write :
    (∀ u : User, u.Expressible →
      ∃ text, u.write? = some text ∧ User.record.decode text = .ok u) ∧
    (∀ v : PostView, v.Expressible →
      ∃ text, v.write? = some text ∧ PostView.record.decode text = .ok v) ∧
    (∀ input u, User.record.decode input = .ok u →
      ∃ text, u.write? = some text ∧ User.record.decode text = .ok u) ∧
    ∀ input v, PostView.record.decode input = .ok v →
      ∃ text, v.write? = some text ∧ PostView.record.decode text = .ok v := by
  refine ⟨fun _ => User.decode_write, fun _ => PostView.decode_write, ?_, ?_⟩
  · intro input u hdecode
    exact User.decode_write (User.expressible_of_decode u hdecode)
  · intro input v hdecode
    exact PostView.decode_write (PostView.expressible_of_decode v hdecode)

def oddUser : User where
  id := ⟨18446744073709551615⟩
  email := ⟨"\"\\\x07@\x00.\x7f", by decide +kernel⟩
  firstName := "\x00\x1f\"\\/\x08\x0c\n\r\t"
  lastName := "é€😀"
  isActive := false
  createdAt := ⟨-62_167_219_200_000_000_000 + 86_340_000_000_000, -1439⟩
  updatedAt := ⟨951_782_400_120_000_000, 1439⟩

def listedUser : Bytes := utf8 ("[7, \"ada@example.com\", \"\\u0041da\", \"\\ud83d\\ude00\", true, "
  ++ "\"1990-12-31T23:59:60Z\", \"2020-02-29 12:00:00.5000000009-00:30\"]")

theorem read_undoes_write_odd :
    (oddUser.Expressible ∧
      ∃ text, oddUser.write? = some text ∧ User.record.decode text = .ok oddUser) ∧
    ∃ u, User.record.decode listedUser = .ok u ∧
      ∃ text, u.write? = some text ∧ User.record.decode text = .ok u := by
  have hodd : oddUser.Expressible :=
    ⟨⟨by decide +kernel, by decide +kernel, by decide⟩,
      ⟨by decide +kernel, by decide +kernel, by decide⟩⟩
  refine ⟨⟨hodd, read_undoes_write.1 oddUser hodd⟩, ?_⟩
  have hlisted : (User.record.decode listedUser).toOption.isSome := by decide +kernel
  cases hdecode : User.record.decode listedUser with
  | error e =>
    rw [hdecode] at hlisted
    cases hlisted
  | ok u => exact ⟨u, rfl, read_undoes_write.2.2.1 listedUser u hdecode⟩

end Bulletin
