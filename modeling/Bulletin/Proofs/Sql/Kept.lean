import Mathlib.Algebra.Group.Int.Defs
import Bulletin.Proofs.Service.Writable
import Bulletin.Sql.Database

namespace Bulletin

variable {entity : Entity}

theorem Id.toRow_inj {a b : Id entity} : a.toRow = b.toRow ↔ a = b :=
  ⟨fun h => by rw [← Id.ofRow_toRow a, h, Id.ofRow_toRow], fun h => h ▸ rfl⟩

theorem Id.toInt_toRow {id : Id entity} (h : id.number.toNat < 2 ^ 63) :
    id.toRow.toInt = id.number.toNat := by
  rw [toRow, ← UInt64.ofNat_toNat (x := id.number), UInt64.toInt64_ofNat',
    Int64.toInt_ofNat_of_lt h]
  simp

theorem Id.toRow_next {last : UInt64} :
    (⟨last + 1⟩ : Id entity).toRow = .ofNat (last.toNat + 1) := by
  rw [toRow, ← UInt64.toInt64_ofNat']
  simp

namespace Timestamp

def toRow (t : Timestamp) : Int64 := .ofInt (t.instant / 1000 - 946_684_800_000_000)

theorem toRow_ofRow (micros : Int64) : (ofRow micros).toRow = micros := by
  simp [toRow, ofRow]

def Whole (t : Timestamp) : Prop := ofRow t.toRow = t

theorem whole_ofRow (micros : Int64) : (ofRow micros).Whole := by
  rw [Whole, toRow_ofRow]

theorem after_ofRow {previous now : Int64} (h : previous.toInt + 1 < 2 ^ 63) :
    (ofRow previous).after (ofRow now) = ofRow (max now (previous + 1)) := by
  have hnext : (previous + 1).toInt = previous.toInt + 1 := by
    have := previous.le_toInt
    rw [Int64.toInt_add, Int64.toInt_one]
    exact Int.bmod_eq_of_le (by omega) (by omega)
  have hmax : (max now (previous + 1)).toInt = max now.toInt (previous.toInt + 1) := by
    change (if now ≤ previous + 1 then previous + 1 else now).toInt = _
    simp only [Int64.le_iff_toInt_le, hnext]
    split
    · rw [hnext]
      omega
    · omega
  have hinstant : (ofRow previous).instant < (ofRow now).instant ↔ previous.toInt < now.toInt := by
    simp only [ofRow]
    omega
  by_cases hlt : previous.toInt < now.toInt
  · rw [after, if_pos (hinstant.2 hlt), ofRow, ofRow, hmax, max_eq_left hlt]
  · rw [after, if_neg (mt hinstant.1 hlt), ofRow, ofRow, hmax, max_eq_right (by omega)]
    simp only [Timestamp.mk.injEq, and_true]
    omega

theorem Whole.after {previous : Timestamp} (h : previous.Whole) (hw : previous.Writable 1)
    (now : Int64) :
    previous.after (ofRow now) = ofRow (max now (previous.toRow + 1)) := by
  rw [writable_iff, ← h] at hw
  simp only [clock, ofRow, dayLength] at hw
  rw [← after_ofRow (by omega), h]

end Timestamp

open Sql

def User.stored (user : User) : StoredUser where
  userId := user.id.toRow
  email := user.email.text
  firstName := user.firstName
  lastName := user.lastName
  isActive := user.isActive
  createdAt := user.createdAt.toRow
  updatedAt := user.updatedAt.toRow

def Post.stored (post : Post) : StoredPost where
  postId := post.id.toRow
  title := post.title
  content := post.content
  userId := post.author.toRow
  published := post.published
  createdAt := post.createdAt.toRow
  updatedAt := post.updatedAt.toRow

theorem User.stored_revise (changes : UserChanges) {user : User} (h : user.updatedAt.Whole)
    (hw : user.updatedAt.Writable 1) (now : Int64) :
    (changes.revise (.ofRow now) user).stored =
      user.stored.update now (changes.email.map (·.text)) changes.firstName changes.lastName
        changes.isActive := by
  have htime := h.after hw now
  cases hemail : changes.email <;>
    simp [UserChanges.revise, UserChanges.applyTo, User.stored, StoredUser.update, htime,
      Timestamp.toRow_ofRow, hemail]

theorem Post.stored_revise (changes : PostChanges) {post : Post} (h : post.updatedAt.Whole)
    (hw : post.updatedAt.Writable 1) (now : Int64) :
    (changes.revise (.ofRow now) post).stored =
      post.stored.update now changes.title changes.content (changes.author.map (·.toRow))
        changes.published := by
  have htime := h.after hw now
  cases hauthor : changes.author <;>
    simp [PostChanges.revise, PostChanges.applyTo, Post.stored, StoredPost.update, htime,
      Timestamp.toRow_ofRow, hauthor]

namespace Sql

variable {m m' : Memory} {t aim t' : Tables}

/-- The tables hold a sound store, as far as rows can. -/
structure Kept (m : Memory) (t : Tables) : Prop where
  sound : m.Sound
  users : t.users = m.users.values.map User.stored
  posts : t.posts = m.posts.values.map Post.stored
  lastUser : t.lastUser = m.users.last.toNat
  lastPost : t.lastPost = m.posts.last.toNat
  smallUsers : m.users.last.toNat < 2 ^ 63
  smallPosts : m.posts.last.toNat < 2 ^ 63
  whole : m.AllTimes Timestamp.Whole

theorem kept_empty : Kept {} {} where
  sound := Memory.sound_empty
  users := rfl
  posts := rfl
  lastUser := rfl
  lastPost := rfl
  smallUsers := by decide
  smallPosts := by decide
  whole := Memory.allTimes_empty

theorem Kept.meets (h : Kept m t) (c : Constraint) : t.Meets c := by
  cases c with
  | email =>
    change (t.users.map _).Nodup
    rw [h.users, Multiset.map_coe, List.map_map, Multiset.coe_nodup]
    have := h.sound.emails.map Email.text_injective
    rwa [List.map_map] at this
  | author =>
    intro row hrow
    rw [h.posts] at hrow
    obtain ⟨post, hpost, rfl⟩ := List.mem_map.1 hrow
    obtain ⟨user, huser, hid⟩ := h.sound.users.contains_iff.1 (h.sound.authors post hpost)
    refine ⟨user.stored, ?_, Id.toRow_inj.2 hid⟩
    rw [h.users]
    exact List.mem_map_of_mem huser

theorem Commits.ok {α : Type} {answer : α} {reply : Except Refusal α}
    (h : Commits t aim answer reply t') (hmeets : ∀ c, aim.Meets c) :
    reply = .ok answer ∧ t' = aim := by
  cases h with
  | done => exact ⟨rfl, rfl⟩
  | refused hc => exact absurd (hmeets _) hc

theorem Commits.error {α : Type} {answer : α} {reply : Except Refusal α} {c : Constraint}
    (h : Commits t aim answer reply t') (hc : ¬ aim.Meets c) (hothers : ∀ d, d ≠ c → aim.Meets d) :
    (∃ r, reply = .error r ∧ r.constraint = some c.name) ∧ t' = t := by
  cases h with
  | done hmeets => exact absurd (hmeets c) hc
  | @refused d r hd hname =>
    cases Decidable.byContradiction fun hne => hd (hothers d hne)
    exact ⟨⟨r, rfl, hname⟩, rfl⟩

end Sql

end Bulletin
