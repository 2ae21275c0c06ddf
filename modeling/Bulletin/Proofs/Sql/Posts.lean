import Bulletin.Proofs.Sql.Users

namespace Bulletin.Sql

variable {db : Database} {now : Int64} {s : db.State} {m : Memory} {t t' : Tables}

theorem Kept.stored_toPost (h : Kept m t) (new : NewPost) :
    (new.toPost ⟨m.posts.last + 1⟩ (.ofRow now)).stored =
      ⟨.ofNat (t.lastPost + 1), new.title, new.content, new.author.toRow, new.published, now,
        now⟩ := by
  simp [NewPost.toPost, Post.stored, Id.toRow_next, h.lastPost, Timestamp.toRow_ofRow]

theorem Kept.no_user (h : Kept m t) {id : UserId} (hunknown : m.users.contains id = false) :
    ¬ ∃ user ∈ t.users, user.userId = id.toRow := by
  rw [h.exists_user, hunknown]
  exact Bool.false_ne_true

theorem Kept.addPost (h : Kept m t) (now : Int64) (hw : m.Writable 1) {new : NewPost}
    (hknown : m.users.contains new.author) (hroom : m.posts.last.toNat + 1 < 2 ^ 63) :
    Kept { m with posts := (m.posts.add fun id => new.toPost id (.ofRow now)).2 }
      (t.addPost (new.toPost ⟨m.posts.last + 1⟩ (.ofRow now)).stored) := by
  obtain ⟨hroom', hlast, hsmall⟩ := small_next h.lastPost hroom
  refine h.step (.createPost hknown) hw h.users ?_ h.lastUser hlast h.smallUsers hsmall
  exact h.keeps_posts.add h.sound.posts h.sound.postIds hroom'
    fun id => new.toPost id (.ofRow now)

theorem Kept.commits_insertPost (h : Kept m t) {new : NewPost}
    {reply : Except Refusal (List PostRow)}
    (hroom : (∀ c, (t.addPost (new.toPost ⟨m.posts.last + 1⟩ (.ofRow now)).stored).Meets c) →
      m.posts.last.toNat + 1 < 2 ^ 63)
    (hmeaning : (Statement.insertPost new.title new.content new.author.toRow
      new.published).Meaning now t reply t') :
    Commits t (t.addPost (new.toPost ⟨m.posts.last + 1⟩ (.ofRow now)).stored)
      [(new.toPost ⟨m.posts.last + 1⟩ (.ofRow now)).stored.row] reply t' := by
  simp only [Statement.Meaning, ← h.stored_toPost] at hmeaning
  exact hmeaning fun hmeets => h.lastPost ▸ hroom hmeets

theorem agrees_createPost (h : Kept m (db.tables s)) (hw : m.Writable 1) {new : NewPost}
    (hroom : m.users.contains new.author → m.posts.last.toNat + 1 < 2 ^ 63) :
    Agrees db now m s (.createPost new) := by
  cases hknown : m.users.contains new.author with
  | false =>
    have hbroken : ¬ ((db.tables s).addPost
        (new.toPost ⟨m.posts.last + 1⟩ (.ofRow now)).stored).Meets .author :=
      fun hauthors => h.no_user hknown (hauthors _ (Multiset.mem_cons_self _ _))
    refine agrees_of_conflict h rfl
      (h.commits_insertPost fun hmeets => absurd (hmeets .author) hbroken) hbroken (fun c hc => ?_)
      rfl (Memory.createPost_of_unknown hknown)
    cases c with
    | email => exact h.meets .email
    | author => exact absurd rfl hc
  | true =>
    refine agrees_of_commit rfl (h.commits_insertPost fun _ => hroom hknown)
      (Memory.createPost_of_known hknown) (h.addPost now hw hknown (hroom hknown)) fun s' => ?_
    exact Storing.posts.on_read ⟨Timestamp.whole_ofRow now, Timestamp.whole_ofRow now⟩

section UpdatePost

variable {id : PostId} {changes : PostChanges} {post : Post}

def postUpdateOf (now : Int64) (changes : PostChanges) : StoredPost → StoredPost :=
  .update now changes.title changes.content (changes.author.map (·.toRow)) changes.published

theorem Kept.stored_revise_post (h : Kept m t) (hw : m.Writable 1) (now : Int64)
    (changes : PostChanges) : ∀ post ∈ m.posts.values,
      (changes.revise (.ofRow now) post).stored = postUpdateOf now changes post.stored :=
  fun post hpost =>
    Post.stored_revise changes (h.whole.posts post hpost).2 (hw.posts post hpost).2 now

theorem Kept.updatePost (h : Kept m t) (hw : m.Writable 1) (now : Int64)
    (hfound : m.posts.get? id = some post)
    (hknown : ∀ author, changes.author = some author → m.users.contains author) :
    Kept { m with posts := m.posts.replace id (changes.revise (.ofRow now) post) }
      (t.updatePost id.toRow (postUpdateOf now changes)) := by
  refine h.step (.updatePost hfound hknown) hw h.users ?_ h.lastUser h.lastPost h.smallUsers
    h.smallPosts
  exact h.keeps_posts.replace h.sound.posts hfound (h.stored_revise_post hw now changes)

theorem Kept.not_meets_updatePost (h : Kept m t) (now : Int64)
    {author : UserId} (hfound : m.posts.get? id = some post)
    (hauthor : changes.author = some author) (hunknown : m.users.contains author = false) :
    ¬ (t.updatePost id.toRow (postUpdateOf now changes)).Meets .author := by
  intro hauthors
  obtain ⟨hpost, hid⟩ := h.sound.posts.get?_eq_some_iff.1 hfound
  have hmem : post.stored ∈ t.posts := h.posts ▸ List.mem_map_of_mem hpost
  apply h.no_user hunknown
  have := hauthors _ (Multiset.mem_map_of_mem _ hmem)
  simpa [Tables.updatePost, Post.stored, Id.toRow_inj, hid, postUpdateOf, StoredPost.update,
    hauthor] using this

theorem Kept.updatePost_missing (h : Kept m t) (hw : m.Writable 1) (now : Int64)
    (changes : PostChanges) (hfound : m.posts.get? id = none) :
    Kept m (t.updatePost id.toRow (postUpdateOf now changes)) := by
  have hposts : (t.updatePost id.toRow (postUpdateOf now changes)).posts = ((m.posts.values.map
      fun post => if post.id = id then changes.revise (.ofRow now) post else post).map
        Post.stored : List StoredPost) :=
    h.keeps_posts.map_lines (h.stored_revise_post hw now changes) id
  rw [List.map_congr_left (g := fun post => post), List.map_id'] at hposts
  · exact { h with posts := hposts }
  · intro post hpost
    rw [h.sound.posts.get?_eq_find?] at hfound
    exact if_neg (by simpa using List.find?_eq_none.1 hfound post hpost)

theorem agrees_updatePost (h : Kept m (db.tables s)) (hw : m.Writable 1) :
    Agrees db now m s (.updatePost id changes) := by
  have hcommits {reply t'} : (Statement.updatePost id.toRow changes.title changes.content
      (changes.author.map (·.toRow)) changes.published).Meaning now (db.tables s) reply t' →
      Commits (db.tables s) ((db.tables s).updatePost id.toRow (postUpdateOf now changes))
        ((((m.posts.get? id).map (changes.revise (.ofRow now))).map Post.stored).toList.map
          StoredPost.row) reply t' := by
    rintro ⟨changed, hchanged, hcommits⟩
    have hline := h.keeps_posts.changed h.sound.posts (h.stored_revise_post hw now changes) hchanged
    rw [hline] at hcommits
    exact hcommits
  cases hfound : m.posts.get? id with
  | none =>
    refine agrees_of_commit rfl hcommits (Memory.updatePost_of_missing hfound)
      (h.updatePost_missing hw now changes hfound) fun s' => ?_
    rw [hfound]
    rfl
  | some post =>
    cases hfilter : changes.author.filter (!m.users.contains ·) with
    | some author =>
      obtain ⟨hauthor, hunknown⟩ := Option.filter_eq_some_iff.1 hfilter
      have hunknown : m.users.contains author = false := by simpa using hunknown
      have hbroken := h.not_meets_updatePost now hfound hauthor hunknown
      refine agrees_of_conflict h rfl hcommits hbroken (fun c hc => ?_) (by rw [hauthor]; rfl)
        (Memory.updatePost_of_unknown hfound hauthor hunknown)
      cases c with
      | email => exact h.meets .email
      | author => exact absurd rfl hc
    | none =>
      have hknown : ∀ author, changes.author = some author → m.users.contains author := by
        intro author hauthor
        simpa [hauthor, Option.filter] using hfilter
      have hnext := h.updatePost hw now hfound hknown
      refine agrees_of_commit rfl hcommits (Memory.updatePost_of_known hfound hknown) hnext
        fun s' => ?_
      rw [hfound]
      refine on_bind_ok (Storing.posts.on_read ?_)
      exact hnext.whole.posts _ (h.sound.posts.mem_values_replace hfound)

end UpdatePost

theorem Kept.deletePost (h : Kept m t) (hw : m.Writable 1) (now : Int64) (id : PostId) :
    Kept { m with posts := m.posts.erase id } (t.deletePost id.toRow) := by
  refine h.step (Memory.exec_step (.ofRow now) m (.deletePost id)) hw h.users ?_ h.lastUser
    h.lastPost h.smallUsers h.smallPosts
  exact h.keeps_posts.erase h.sound.posts id

theorem agrees_deletePost (h : Kept m (db.tables s)) (hw : m.Writable 1) (id : PostId) :
    Agrees db now m s (.deletePost id) := by
  have hexec : m.exec (.ofRow now) (.deletePost id) = (.ok (m.posts.contains id), _) := rfl
  refine agrees_of_commit rfl (fun hcommits => hcommits) hexec (h.deletePost hw now id) fun s' => ?_
  exact congrArg (fun found => (Except.ok found, s')) (h.keeps_posts.count_lines h.sound.posts id)

end Bulletin.Sql
