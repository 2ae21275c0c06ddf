import Bulletin.Proofs.Store.Kind

/-!
What holds of a store in memory after any calls. `Linked` survives even a counter that starts over;
the rest of `Sound` needs that no id is given out twice.
-/

namespace Bulletin.Memory

variable {now : Timestamp} {e : Event} {m m' : Memory}

structure Linked (m : Memory) : Prop where
  users : m.users.Keyed User.id
  posts : m.posts.Keyed Post.id
  authors : ∀ post ∈ m.posts.values, m.users.contains post.author

theorem linked_empty : Linked {} where
  users := ⟨nofun, .nil⟩
  posts := ⟨nofun, .nil⟩
  authors := nofun

theorem Step.linked (h : Step now m e m') (hm : m.Linked) : m'.Linked where
  users := (Kind.step_users h).keyed hm.users
  posts := (Kind.step_posts h).keyed hm.posts
  authors := by
    intro post hpost
    cases h with
    | idle => exact hm.authors post hpost
    | createUser =>
      dsimp only
      exact Table.contains_add (hm.authors post hpost)
    | updateUser => exact Table.contains_replace (hm.authors post hpost)
    | deleteUser =>
      rw [Table.values_filter] at hpost
      obtain ⟨hpost, hauthor⟩ := List.mem_filter.1 hpost
      exact Table.contains_erase (hm.authors post hpost) (by simpa using hauthor)
    | createPost hauthor =>
      dsimp only at hpost
      rcases Table.mem_values_add hpost with rfl | hpost
      · exact hauthor
      · exact hm.authors post hpost
    | @updatePost id changes old hfound hauthor =>
      rcases Table.mem_values_of_mem_replace hpost with rfl | hpost
      · simp only [PostChanges.revise, PostChanges.applyTo]
        cases hchange : changes.author with
        | none => exact hm.authors old (hm.posts.get?_eq_some_iff.1 hfound).1
        | some author => exact hauthor author hchange
      · exact hm.authors post hpost
    | deletePost => exact hm.authors post (Table.mem_values_of_mem_erase hpost)

theorem Linked.deleteUser_eq (hm : m.Linked) (id : UserId) : m.deleteUser id =
    (m.users.contains id, ⟨m.users.erase id, m.posts.filter (·.author ≠ id)⟩) := by
  unfold Memory.deleteUser
  cases hknown : m.users.contains id with
  | true => rfl
  | false =>
    have hposts : m.posts.filter (·.author ≠ id) = m.posts := by
      rw [Table.filter, List.filter_eq_self.2]
      intro row hrow
      have hauthor := hm.authors row.2 (List.mem_map_of_mem hrow)
      have : row.2.author ≠ id := by
        intro hid
        rw [hid, hknown] at hauthor
        cases hauthor
      simpa using this
    rw [Table.erase_of_not_contains hknown, hposts]
    rfl

def Unshared (m : Memory) : Prop :=
  ∀ a ∈ m.users.values, ∀ b ∈ m.users.values, a.email = b.email → a.id = b.id

theorem unshared_empty : Unshared {} := nofun

theorem Unshared.nodup (h : m.Unshared) (hm : m.Linked) :
    (m.users.values.map User.email).Nodup :=
  hm.users.nodup_ident.of_map.map_on fun a ha b hb hemail =>
    List.inj_on_of_nodup_map hm.users.nodup_ident ha hb (h a ha b hb hemail)

section Unshared

variable (hm : m.Linked) (hu : m.Unshared)

include hu in
theorem Unshared.createUser {new : NewUser} (hfree : m.emailInUse new.email none = false) :
    Unshared { m with users := (m.users.add fun id => new.toUser id now).2 } := by
  have hnew : ∀ user ∈ m.users.values, user.email ≠ new.email := by
    intro user huser hemail
    have := List.any_eq_false.1 hfree user huser
    simp [hemail] at this
  intro a ha b hb hemail
  dsimp only at ha hb
  rcases Table.mem_values_add ha with rfl | ha <;> rcases Table.mem_values_add hb with rfl | hb
  · rfl
  · exact absurd hemail.symm (hnew b hb)
  · exact absurd hemail (hnew a ha)
  · exact hu a ha b hb hemail

include hm hu in
theorem Unshared.updateUser {id : UserId} {changes : UserChanges} {user : User}
    (hfound : m.users.get? id = some user)
    (hfree : ∀ email, changes.email = some email → m.emailInUse email (some id) = false) :
    Unshared { m with users := m.users.replace id (changes.revise now user) } := by
  -- Only the changed user may have the email that the change leaves it with.
  have hmine : ∀ {a b : User}, a ∈ m.users.values → b ∈ m.users.values → a.id = id →
      (changes.revise now a).email = b.email → b.id = id := by
    intro a b ha hb hida hemail
    cases hchange : changes.email with
    | none =>
      simp only [UserChanges.revise, UserChanges.applyTo, hchange, Option.getD_none] at hemail
      rw [← hu a ha b hb hemail, hida]
    | some email =>
      simp only [UserChanges.revise, UserChanges.applyTo, hchange, Option.getD_some] at hemail
      simpa [← hemail] using List.any_eq_false.1 (hfree email hchange) b hb
  intro a ha b hb hemail
  rw [hm.users.values_replace hfound] at ha hb
  obtain ⟨a, ha', rfl⟩ := List.mem_map.1 ha
  obtain ⟨b, hb', rfl⟩ := List.mem_map.1 hb
  by_cases hida : a.id = id <;> by_cases hidb : b.id = id
  · rw [if_pos hida, if_pos hidb]
    exact hida.trans hidb.symm
  · rw [if_pos hida, if_neg hidb] at hemail
    exact absurd (hmine ha' hb' hida hemail) hidb
  · rw [if_neg hida, if_pos hidb] at hemail
    exact absurd (hmine hb' ha' hidb hemail.symm) hida
  · rw [if_neg hida, if_neg hidb] at hemail ⊢
    exact hu a ha' b hb' hemail

end Unshared

theorem Step.unshared (h : Step now m e m') (hm : m.Linked) (hu : m.Unshared) : m'.Unshared := by
  cases h with
  | createUser hfree => exact hu.createUser hfree
  | updateUser hfound hfree => exact hu.updateUser hm hfound hfree
  | deleteUser =>
    intro a ha b hb
    rw [hm.users.values_erase] at ha hb
    exact hu a (List.mem_of_mem_filter ha) b (List.mem_of_mem_filter hb)
  | idle | createPost | updatePost | deletePost => exact hu

/-- No counter starts over in the course of a history. -/
structure RoomFor (m : Memory) (h : History) : Prop where
  users : Kind.users.Room m h
  posts : Kind.posts.Room m h

theorem Step.roomFor {later : History} (h : Step now m e m') (hroom : m.RoomFor (e :: later)) :
    m'.RoomFor later where
  users := (Kind.step_users h).room hroom.users
  posts := (Kind.step_posts h).room hroom.posts

/-- The store holds what it promises: rows stand under their own ids, which were given out, no two
users share an email, no post is without its author, and no change comes before the creation. -/
structure Sound (m : Memory) : Prop extends Linked m where
  userIds : m.users.Numbered User.id
  postIds : m.posts.Numbered Post.id
  emails : (m.users.values.map User.email).Nodup
  userTimes : ∀ user ∈ m.users.values, user.createdAt.instant ≤ user.updatedAt.instant
  postTimes : ∀ post ∈ m.posts.values, post.createdAt.instant ≤ post.updatedAt.instant

theorem sound_empty : Sound {} where
  toLinked := linked_empty
  userIds := nofun
  postIds := nofun
  emails := .nil
  userTimes := nofun
  postTimes := nofun

section Sound

variable (hm : m.Sound)
include hm

theorem Sound.unshared : m.Unshared := fun _ ha _ hb hemail =>
  congrArg User.id (List.inj_on_of_nodup_map hm.emails ha hb hemail)

theorem Step.sound {later : History} (h : Step now m e m') (hroom : m.RoomFor (e :: later)) :
    m'.Sound where
  toLinked := h.linked hm.toLinked
  userIds := (Kind.step_users h).numbered hroom.users hm.users hm.userIds
  postIds := (Kind.step_posts h).numbered hroom.posts hm.posts hm.postIds
  emails := (h.unshared hm.toLinked hm.unshared).nodup (h.linked hm.toLinked)
  userTimes := (Kind.step_users h).ordered hm.users hm.userTimes
  postTimes := (Kind.step_posts h).ordered hm.posts hm.postTimes

end Sound

theorem roomFor_empty {h : History} (husers : h.createdUsers.length < 2 ^ 64)
    (hposts : h.createdPosts.length < 2 ^ 64) : RoomFor {} h where
  users := show 0 + h.createdUsers.length < 2 ^ 64 by omega
  posts := show 0 + h.createdPosts.length < 2 ^ 64 by omega

theorem history_append (m : Memory) (earlier later : List (Timestamp × Call)) :
    m.history (earlier ++ later) = m.history earlier ++ (m.after earlier).history later := by
  induction earlier generalizing m with
  | nil => rfl
  | cons call earlier ih => exact congrArg _ (ih _)

/-- What each step keeps, with a view to what is still to come, calls keep. -/
theorem after_keeps {I : History → Memory → Prop}
    (hstep : ∀ {now e later m m'}, Step now m e m' → I (e :: later) m → I later m')
    (calls : List (Timestamp × Call)) (later : History) (hm : I (m.history calls ++ later) m) :
    I later (m.after calls) := by
  induction calls generalizing m with
  | nil => exact hm
  | cons call calls ih => exact ih (hstep (exec_step call.1 m call.2) hm)

theorem sound_roomFor_after (hm : m.Sound) (calls : List (Timestamp × Call)) (later : History)
    (hroom : m.RoomFor (m.history calls ++ later)) :
    (m.after calls).Sound ∧ (m.after calls).RoomFor later :=
  after_keeps (I := fun later m => m.Sound ∧ m.RoomFor later)
    (fun h hm => ⟨h.sound hm.1 hm.2, h.roomFor hm.2⟩) calls later ⟨hm, hroom⟩

theorem sound_after (hm : m.Sound) (calls : List (Timestamp × Call))
    (hroom : m.RoomFor (m.history calls)) : (m.after calls).Sound :=
  (sound_roomFor_after hm calls [] ((List.append_nil (m.history calls)).symm ▸ hroom)).1

theorem linked_after (hm : m.Linked) (calls : List (Timestamp × Call)) : (m.after calls).Linked :=
  after_keeps (I := fun _ m => m.Linked) (fun h hm => h.linked hm) calls [] hm

theorem unshared_after (hm : m.Linked) (hu : m.Unshared) (calls : List (Timestamp × Call)) :
    (m.after calls).Unshared :=
  (after_keeps (I := fun _ m => m.Linked ∧ m.Unshared)
    (fun h hm => ⟨h.linked hm.1, h.unshared hm.1 hm.2⟩) calls [] ⟨hm, hu⟩).2

theorem eq_after_of_interleaved {α : Type} {programs programs' : List (StoreProgram α)}
    {calls : List (Timestamp × Call)} (h : Interleaved programs m calls programs' m') :
    m' = m.after calls := by
  induction h with
  | refl => rfl
  | ask i now hnext hrest ih => exact ih

/-- A store that was empty once is sound after any calls, whoever makes them in turns. -/
theorem sound_of_calls (calls : List (Timestamp × Call))
    (husers : (history {} calls).createdUsers.length < 2 ^ 64)
    (hposts : (history {} calls).createdPosts.length < 2 ^ 64) :
    (after {} calls).Sound ∧ ∀ {α : Type} (programs programs' : List (StoreProgram α)) (m : Memory),
      Interleaved programs {} calls programs' m → m.Sound := by
  have hsound := sound_after sound_empty calls (roomFor_empty husers hposts)
  exact ⟨hsound, fun _ _ _ h => eq_after_of_interleaved h ▸ hsound⟩

def sampleCalls : List (Timestamp × Call) := [
  (⟨0, 0⟩, .createUser ⟨⟨"ada@example.com", by decide⟩, "Ada", "Lovelace", true⟩),
  (⟨1, 0⟩, .createUser ⟨⟨"ada@example.com", by decide⟩, "Eve", "Double", true⟩),
  (⟨2, 0⟩, .createUser ⟨⟨"bob@example.com", by decide⟩, "Bob", "Stone", true⟩),
  (⟨3, 0⟩, .createPost ⟨"First", "Hello", ⟨1⟩, true⟩),
  (⟨3, 0⟩, .updatePost ⟨1⟩ { author := some ⟨2⟩ }),
  (⟨2, 0⟩, .updateUser ⟨2⟩ { firstName := some "Robert" }),
  (⟨4, 0⟩, .deleteUser ⟨1⟩)]

theorem sound_of_sampleCalls : (history {} sampleCalls).createdUsers.length < 2 ^ 64 ∧
    (history {} sampleCalls).createdPosts.length < 2 ^ 64 ∧ (after {} sampleCalls).Sound :=
  ⟨by decide, by decide, (sound_of_calls sampleCalls (by decide) (by decide)).1⟩

end Bulletin.Memory
