import Bulletin.Proofs.Sql.Answer

/-!
Writes: where the store in memory goes on, the tables that the statement aims at meet every
constraint, and where it refuses, they break the one that the reply has to name.
-/

namespace Bulletin.Sql

variable {db : Database} {now : Int64} {s s' : db.State} {e : Event} {m m' : Memory} {t t' : Tables}

theorem room_one {entity : Entity} {α : Type} {k : Kind entity α}
    (hsmall : (k.table m).last.toNat < 2 ^ 63) : k.Room m [e] := by
  have : (List.filterMap k.created? [e]).length ≤ 1 := List.length_filterMap_le _ [e]
  rw [Kind.Room]
  omega

theorem small_next {entity : Entity} {α : Type} {t : Table entity α} {n : Nat}
    (hlast : n = t.last.toNat) (hroom : t.last.toNat + 1 < 2 ^ 63) :
    t.last.toNat + 1 < 2 ^ 64 ∧ n + 1 = (t.last + 1).toNat ∧ (t.last + 1).toNat < 2 ^ 63 := by
  have hroom' : t.last.toNat + 1 < 2 ^ 64 := by omega
  rw [Table.toNat_next hroom', hlast]
  exact ⟨hroom', rfl, hroom⟩

theorem Kept.step (h : Kept m t) (hstep : Memory.Step (.ofRow now) m e m') (hw : m.Writable 1)
    (husers : Storing.users.Keeps m' t') (hposts : Storing.posts.Keeps m' t')
    (hlastUser : t'.lastUser = m'.users.last.toNat) (hlastPost : t'.lastPost = m'.posts.last.toNat)
    (hsmallUsers : m'.users.last.toNat < 2 ^ 63) (hsmallPosts : m'.posts.last.toNat < 2 ^ 63) :
    Kept m' t' where
  sound := hstep.sound h.sound ⟨room_one h.smallUsers, room_one h.smallPosts⟩
  users := husers
  posts := hposts
  lastUser := hlastUser
  lastPost := hlastPost
  smallUsers := hsmallUsers
  smallPosts := hsmallPosts
  whole := by
    apply hstep.allTimes h.sound.toLinked (h.whole.and hw) (fun _ ht => ht.1)
      (Timestamp.whole_ofRow now)
    intro t ht
    rw [ht.1.after ht.2]
    exact Timestamp.whole_ofRow _

theorem Kept.taken_iff (h : Kept m t) {email : Email} :
    m.emailInUse email none ↔ email.text ∈ t.users.map (·.email) := by
  rw [h.users]
  simp [Memory.emailInUse, User.stored, Email.text_injective.eq_iff]

theorem Kept.stored_toUser (h : Kept m t) (new : NewUser) :
    (new.toUser ⟨m.users.last + 1⟩ (.ofRow now)).stored =
      ⟨.ofNat (t.lastUser + 1), new.email.text, new.firstName, new.lastName, new.isActive, now,
        now⟩ := by
  simp [NewUser.toUser, User.stored, Id.toRow_next, h.lastUser, Timestamp.toRow_ofRow]

theorem not_meets_addUser {u : StoredUser} (h : u.email ∈ t.users.map (·.email)) :
    ¬ (t.addUser u).Meets .email := by
  intro hnodup
  change (Multiset.map _ (u ::ₘ t.users)).Nodup at hnodup
  rw [Multiset.map_cons, Multiset.nodup_cons] at hnodup
  exact hnodup.1 h

theorem Kept.meets_addUser (h : Kept m t) (u : StoredUser) : (t.addUser u).Meets .author := by
  intro post hpost
  obtain ⟨user, huser, hid⟩ := h.meets .author post hpost
  exact ⟨user, Multiset.mem_cons_of_mem huser, hid⟩

theorem Kept.addUser (h : Kept m t) (now : Int64) (hw : m.Writable 1) {new : NewUser}
    (hfree : m.emailInUse new.email none = false) (hroom : m.users.last.toNat + 1 < 2 ^ 63) :
    Kept { m with users := (m.users.add fun id => new.toUser id (.ofRow now)).2 }
      (t.addUser (new.toUser ⟨m.users.last + 1⟩ (.ofRow now)).stored) := by
  obtain ⟨hroom', hlast, hsmall⟩ := small_next h.lastUser hroom
  refine h.step (.createUser hfree) hw ?_ h.posts hlast h.lastPost hsmall h.smallPosts
  exact h.keeps_users.add h.sound.users h.sound.userIds hroom'
    fun id => new.toUser id (.ofRow now)

theorem Kept.commits_insertUser (h : Kept m t) {new : NewUser}
    {reply : Except Refusal (List UserRow)}
    (hroom : (∀ c, (t.addUser (new.toUser ⟨m.users.last + 1⟩ (.ofRow now)).stored).Meets c) →
      m.users.last.toNat + 1 < 2 ^ 63)
    (hmeaning : (Statement.insertUser new.email.text new.firstName new.lastName
      new.isActive).Meaning now t reply t') :
    Commits t (t.addUser (new.toUser ⟨m.users.last + 1⟩ (.ofRow now)).stored)
      [(new.toUser ⟨m.users.last + 1⟩ (.ofRow now)).stored.row] reply t' := by
  simp only [Statement.Meaning, ← h.stored_toUser] at hmeaning
  exact hmeaning fun hmeets => h.lastUser ▸ hroom hmeets

theorem agrees_createUser (h : Kept m (db.tables s)) (hw : m.Writable 1) {new : NewUser}
    (hroom : m.emailInUse new.email none = false → m.users.last.toNat + 1 < 2 ^ 63) :
    Agrees db now m s (.createUser new) := by
  cases hfree : m.emailInUse new.email none with
  | true =>
    have hbroken := not_meets_addUser (u := (new.toUser ⟨m.users.last + 1⟩ (.ofRow now)).stored)
      (h.taken_iff.1 hfree)
    refine agrees_of_conflict h rfl
      (h.commits_insertUser fun hmeets => absurd (hmeets .email) hbroken) hbroken (fun c hc => ?_)
      rfl (Memory.createUser_of_taken hfree)
    cases c with
    | email => exact absurd rfl hc
    | author => exact h.meets_addUser _
  | false =>
    refine agrees_of_commit rfl (h.commits_insertUser fun _ => hroom hfree)
      (Memory.createUser_of_free hfree) (h.addUser now hw hfree (hroom hfree)) fun s' => ?_
    exact Storing.users.on_read ⟨Timestamp.whole_ofRow now, Timestamp.whole_ofRow now⟩

section UpdateUser

variable {id : UserId} {changes : UserChanges} {user : User}

def updateOf (now : Int64) (changes : UserChanges) : StoredUser → StoredUser :=
  .update now (changes.email.map (·.text)) changes.firstName changes.lastName changes.isActive

theorem Kept.stored_revise_user (h : Kept m t) (hw : m.Writable 1) (now : Int64)
    (changes : UserChanges) : ∀ user ∈ m.users.values,
      (changes.revise (.ofRow now) user).stored = updateOf now changes user.stored :=
  fun user huser =>
    User.stored_revise changes (h.whole.users user huser).2 (hw.users user huser).2 now

theorem Kept.updateUser (h : Kept m t) (hw : m.Writable 1) (now : Int64)
    (hfound : m.users.get? id = some user)
    (hfree : ∀ email, changes.email = some email → m.emailInUse email (some id) = false) :
    Kept { m with users := m.users.replace id (changes.revise (.ofRow now) user) }
      (t.updateUser id.toRow (updateOf now changes)) := by
  refine h.step (.updateUser hfound hfree) hw ?_ h.posts h.lastUser h.lastPost h.smallUsers
    h.smallPosts
  exact h.keeps_users.replace h.sound.users hfound (h.stored_revise_user hw now changes)

theorem Kept.not_meets_updateUser (h : Kept m t) (hw : m.Writable 1) (now : Int64) {email : Email}
    (hfound : m.users.get? id = some user) (hemail : changes.email = some email)
    (htaken : m.emailInUse email (some id)) :
    ¬ (t.updateUser id.toRow (updateOf now changes)).Meets .email := by
  intro hnodup
  change (Multiset.map _ _).Nodup at hnodup
  have hlines : (t.updateUser id.toRow (updateOf now changes)).users = ((m.users.values.map
      fun user => if user.id = id then changes.revise (.ofRow now) user else user).map
        User.stored : List StoredUser) :=
    h.keeps_users.map_lines (h.stored_revise_user hw now changes) id
  rw [hlines, Multiset.map_coe, List.map_map, List.map_map, Multiset.coe_nodup] at hnodup
  obtain ⟨other, hother, hsame⟩ := List.any_eq_true.1 htaken
  obtain ⟨huser, hid⟩ := h.sound.users.get?_eq_some_iff.1 hfound
  simp only [Bool.and_eq_true, decide_eq_true_eq] at hsame
  have hne : other.id ≠ id := fun h => hsame.2 (congrArg some h)
  have := List.inj_on_of_nodup_map hnodup huser hother (by
    simp [hid, hne, User.stored, UserChanges.revise, UserChanges.applyTo, hemail, hsame.1])
  exact hne (this ▸ hid)

theorem Kept.meets_updateUser (h : Kept m t) (now : Int64) :
    (t.updateUser id.toRow (updateOf now changes)).Meets .author := by
  intro post hpost
  obtain ⟨user, huser, hid⟩ := h.meets .author post hpost
  refine ⟨_, Multiset.mem_map_of_mem _ huser, ?_⟩
  split
  · exact hid
  · exact hid

theorem agrees_updateUser (h : Kept m (db.tables s)) (hw : m.Writable 1)
    (hknown : m.users.contains id) : Agrees db now m s (.updateUser id changes) := by
  obtain ⟨user, hfound⟩ := Option.isSome_iff_exists.1 hknown
  have hcommits {reply t'} : (Statement.updateUser id.toRow (changes.email.map (·.text))
      changes.firstName changes.lastName changes.isActive).Meaning now (db.tables s) reply t' →
      Commits (db.tables s) ((db.tables s).updateUser id.toRow (updateOf now changes))
        [(changes.revise (.ofRow now) user).stored.row] reply t' := by
    rintro ⟨changed, hchanged, hcommits⟩
    have hline : changed =
        (((m.users.get? id).map (changes.revise (.ofRow now))).map User.stored).toList :=
      h.keeps_users.changed h.sound.users (h.stored_revise_user hw now changes) hchanged
    rw [hline, hfound] at hcommits
    exact hcommits
  cases hfilter : changes.email.filter (m.emailInUse · (some id)) with
  | some email =>
    obtain ⟨hemail, htaken⟩ := Option.filter_eq_some_iff.1 hfilter
    have hbroken := h.not_meets_updateUser hw now hfound hemail htaken
    refine agrees_of_conflict h rfl hcommits hbroken (fun c hc => ?_) (by rw [hemail]; rfl)
      (Memory.updateUser_of_taken hemail htaken)
    cases c with
    | email => exact absurd rfl hc
    | author => exact h.meets_updateUser now
  | none =>
    have hfree : ∀ email, changes.email = some email → m.emailInUse email (some id) = false := by
      intro email hemail
      simpa [hemail, Option.filter] using hfilter
    have hnext := h.updateUser hw now hfound hfree
    refine agrees_of_commit rfl hcommits (Memory.updateUser_of_free hfound hfree) hnext fun s' => ?_
    refine on_bind_ok (Storing.users.on_read ?_)
    exact hnext.whole.users _ (h.sound.users.mem_values_replace hfound)

end UpdateUser

theorem Kept.deleteUser (h : Kept m t) (hw : m.Writable 1) (now : Int64) (id : UserId) :
    Kept ⟨m.users.erase id, m.posts.filter (·.author ≠ id)⟩ (t.deleteUser id.toRow) := by
  have hstep := Memory.exec_step (.ofRow now) m (.deleteUser id)
  simp only [Memory.exec, h.sound.deleteUser_eq] at hstep
  refine h.step hstep hw ?_ ?_ h.lastUser h.lastPost h.smallUsers h.smallPosts
  · exact h.keeps_users.erase h.sound.users id
  · change t.posts.filter (·.userId ≠ id.toRow) =
      ((m.posts.filter (·.author ≠ id)).values.map Post.stored : List StoredPost)
    rw [h.posts, Table.values_filter, Multiset.filter_coe, List.filter_map]
    simp [Function.comp_def, Post.stored, Id.toRow_inj]

theorem agrees_deleteUser (h : Kept m (db.tables s)) (hw : m.Writable 1) (id : UserId) :
    Agrees db now m s (.deleteUser id) := by
  have hexec : m.exec (.ofRow now) (.deleteUser id) = (.ok (m.users.contains id), _) :=
    congrArg (fun r : Bool × Memory => (Except.ok r.1, r.2)) (h.sound.deleteUser_eq id)
  refine agrees_of_commit rfl (fun hcommits => hcommits) hexec (h.deleteUser hw now id) fun s' => ?_
  exact congrArg (fun found => (Except.ok found, s')) (h.keeps_users.count_lines h.sound.users id)

end Bulletin.Sql
