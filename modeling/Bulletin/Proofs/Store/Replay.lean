import Bulletin.Proofs.Store.Fresh

/-!
A store in memory is the replay of its history. The induction goes over the calls with the users
and posts at the start as a parameter: later events act on them, and then come the new ones.
-/

namespace Bulletin

def User.undated (user : User) : User := { user with updatedAt := user.createdAt }

def Post.undated (post : Post) : Post := { post with updatedAt := post.createdAt }

namespace Memory

variable {now : Timestamp} {e : Event} {m m' : Memory}

section Lists

variable {α : Type} {p q : α → Prop} [DecidablePred p] [DecidablePred q]

theorem map_replaced (v f g : α → α) (hq : ∀ a, q (v a) ↔ p a) (hf : ∀ a, v (f a) = g (v a))
    (l : List α) : (l.map fun a => if p a then f a else a).map v =
      ((l.map v).filterMap fun a => some (if q a then g a else a)) ++ [] := by
  rw [List.append_nil, List.filterMap_eq_map', List.map_map, List.map_map]
  refine List.map_congr_left fun a _ => ?_
  by_cases h : p a <;> simp [h, hq, hf]

theorem map_removed (v : α → α) (hq : ∀ a, q (v a) ↔ p a) (l : List α) :
    (l.filter (¬ p ·)).map v =
      ((l.map v).filterMap fun a => if q a then none else some a) ++ [] := by
  rw [List.append_nil]
  induction l with
  | nil => rfl
  | cons a l ih => by_cases h : p a <;> simpa [h, hq] using ih

end Lists

section Undated

variable {entity : Entity} {α : Type} {k : Kind entity α} (v : α → α)
variable (hm : (k.table m).Keyed k.ident)
include hm

theorem undated_add (hnumbered : (k.table m).Numbered k.ident)
    (hroom : (k.table m).last.toNat + 1 < 2 ^ 64) (f : Id entity → α) :
    ((k.table m).add f).2.values.map v =
      (k.table m).values.map v ++ [v (f ⟨(k.table m).last + 1⟩)] := by
  rw [hnumbered.values_add hm hroom, List.map_append, List.map_singleton]

variable (hv : ∀ a, k.ident (v a) = k.ident a)
include hv

theorem undated_replace {id : Id entity} {a : α} (hfound : (k.table m).get? id = some a)
    {f g : α → α} (hf : ∀ a, v (f a) = g (v a)) : ((k.table m).replace id (f a)).values.map v =
      ((k.table m).values.map v).filterMap
        (fun a => some (if id = k.ident a then g a else a)) ++ [] := by
  rw [hm.values_replace hfound]
  exact map_replaced v f g (fun a => by rw [hv, eq_comm]) hf _

theorem undated_erase (id : Id entity) : ((k.table m).erase id).values.map v =
    ((k.table m).values.map v).filterMap
      (fun a => if id = k.ident a then none else some a) ++ [] := by
  rw [hm.values_erase]
  exact map_removed v (fun a => by rw [hv, eq_comm]) _

end Undated

def undatedUsers (m : Memory) : List User := m.users.values.map User.undated

def undatedPosts (m : Memory) : List Post := m.posts.values.map Post.undated

section Step

variable {later : History} (h : Step now m e m') (hm : m.Sound) (hroom : m.RoomFor (e :: later))
include h hm hroom

theorem Step.undatedUsers :
    m'.undatedUsers = m.undatedUsers.filterMap (Event.onUser · e) ++ e.createdUser?.toList := by
  cases h with
  | idle he => simp [Event.onUser_of_not_wrote he, Event.createdUser?_of_not_wrote he]
  | @createUser new _ =>
    refine (undated_add (k := .users) User.undated hm.users hm.userIds (hroom.users.next rfl)
      fun id => new.toUser id now).trans ?_
    simp [Memory.undatedUsers, Event.onUser, Event.createdUser?, NewUser.toUser, User.undated,
      Kind.users]
  | @updateUser id changes user hfound =>
    exact undated_replace (k := .users) User.undated hm.users (fun _ => rfl) hfound
      (f := changes.revise now) (g := changes.applyTo) fun _ => rfl
  | @deleteUser id => exact undated_erase (k := .users) User.undated hm.users (fun _ => rfl) id
  | createPost | updatePost | deletePost =>
    simp [Memory.undatedUsers, Event.onUser, Event.createdUser?]

theorem Step.undatedPosts :
    m'.undatedPosts = m.undatedPosts.filterMap (Event.onPost · e) ++ e.createdPost?.toList := by
  cases h with
  | idle he => simp [Event.onPost_of_not_wrote he, Event.createdPost?_of_not_wrote he]
  | @createPost new _ =>
    refine (undated_add (k := .posts) Post.undated hm.posts hm.postIds (hroom.posts.next rfl)
      fun id => new.toPost id now).trans ?_
    simp [Memory.undatedPosts, Event.onPost, Event.createdPost?, NewPost.toPost, Post.undated,
      Kind.posts]
  | @updatePost id changes post hfound =>
    exact undated_replace (k := .posts) Post.undated hm.posts (fun _ => rfl) hfound
      (f := changes.revise now) (g := changes.applyTo) fun _ => rfl
  | @deletePost id => exact undated_erase (k := .posts) Post.undated hm.posts (fun _ => rfl) id
  | @deleteUser id =>
    dsimp only [Memory.undatedPosts]
    rw [Table.values_filter]
    exact map_removed Post.undated (p := (Post.author · = id)) (q := (id = ·.author))
      (fun _ => eq_comm) _
  | createUser | updateUser =>
    simp [Memory.undatedPosts, Event.onPost, Event.createdPost?]

end Step

theorem replay_after {α : Type} {view : Memory → List α} {created? : Event → Option α}
    {on : α → Event → Option α}
    (hstep : ∀ {now e m m' later}, Step now m e m' → m.Sound → m.RoomFor (e :: later) →
      view m' = (view m).filterMap (on · e) ++ (created? e).toList)
    (hm : m.Sound) (calls : List (Timestamp × Call)) (hroom : m.RoomFor (m.history calls)) :
    view (m.after calls) = (view m).filterMap ((m.history calls).foldlM on) ++
      History.remaining created? on (m.history calls) := by
  induction calls generalizing m with
  | nil => simp [after, history, History.remaining]
  | cons call calls ih =>
    have h := exec_step call.1 m call.2
    rw [after, ih (h.sound hm hroom) (h.roomFor hroom), hstep h hm hroom, history,
      History.remaining, List.filterMap_append, List.filterMap_filterMap, List.append_assoc]
    congr 2
    cases created? ⟨call.2, (m.exec call.1 call.2).1⟩ <;> rfl

/-- Whoever reads the store finds these users and posts. -/
structure Answers (m : Memory) (users : List User) (posts : List Post) : Prop where
  listUsers : ∀ now, (m.exec now .listUsers).1 = .ok users
  listPosts : ∀ now, (m.exec now .listPosts).1 = .ok posts
  fetchUser : ∀ now id, (m.exec now (.fetchUser id)).1 = .ok (users.find? (·.id = id))
  fetchPost : ∀ now id, (m.exec now (.fetchPost id)).1 = .ok (posts.find? (·.id = id))
  fetchUserPosts : ∀ now id, (m.exec now (.fetchUserPosts id)).1 =
    .ok (if ∃ user ∈ users, user.id = id then some (posts.filter (·.author = id)) else none)

theorem Linked.userPosts_eq (hm : m.Linked) (id : UserId) :
    m.userPosts id = if ∃ user ∈ m.users.values, user.id = id then
      some (m.posts.values.filter (·.author = id)) else none := by
  by_cases h : ∃ user ∈ m.users.values, user.id = id
  · rw [if_pos h, userPosts, if_pos (hm.users.contains_iff.2 h)]
  · rw [if_neg h, userPosts, if_neg (mt hm.users.contains_iff.1 h)]

theorem Linked.answers (hm : m.Linked) : m.Answers m.users.values m.posts.values where
  listUsers _ := rfl
  listPosts _ := rfl
  fetchUser _ id := congrArg Except.ok (hm.users.get?_eq_find? id)
  fetchPost _ id := congrArg Except.ok (hm.posts.get?_eq_find? id)
  fetchUserPosts _ id := congrArg Except.ok (hm.userPosts_eq id)

/-- A new store holds after any calls what their history says, apart from the times of changes, and
has given out the ids from 1 on, one to each thing that it created. -/
theorem replay_of_calls (calls : List (Timestamp × Call))
    (husers : (history {} calls).createdUsers.length < 2 ^ 64)
    (hposts : (history {} calls).createdPosts.length < 2 ^ 64) :
    (∃ users posts, (after {} calls).Answers users posts ∧
      users.map User.undated = (history {} calls).users ∧
      posts.map Post.undated = (history {} calls).posts) ∧
    (history {} calls).createdUsers.map (·.id.number.toNat) =
      List.range' 1 (history {} calls).createdUsers.length ∧
    (history {} calls).createdPosts.map (·.id.number.toNat) =
      List.range' 1 (history {} calls).createdPosts.length := by
  have hroom := roomFor_empty husers hposts
  have hsound := sound_after sound_empty calls hroom
  refine ⟨⟨_, _, hsound.answers, ?_, ?_⟩, ?_, ?_⟩
  · exact replay_after Step.undatedUsers sound_empty calls hroom
  · exact replay_after Step.undatedPosts sound_empty calls hroom
  · exact Kind.numbers_after Kind.stepwise_users calls hroom.users
  · exact Kind.numbers_after Kind.stepwise_posts calls hroom.posts

theorem replay_of_sampleCalls : (history {} sampleCalls).createdUsers.length < 2 ^ 64 ∧
    (history {} sampleCalls).createdPosts.length < 2 ^ 64 ∧
    ∃ users posts, (after {} sampleCalls).Answers users posts ∧
      users.map (fun user => (user.id.number, user.firstName)) = [(2, "Robert")] ∧
      posts.map (fun post => (post.id.number, post.author.number)) = [(1, 2)] := by
  refine ⟨by decide, by decide, ?_⟩
  obtain ⟨⟨users, posts, hanswers, husers, hposts⟩, -⟩ :=
    replay_of_calls sampleCalls (by decide) (by decide)
  refine ⟨users, posts, hanswers, ?_, ?_⟩
  · have := congrArg (List.map fun user : User => (user.id.number, user.firstName)) husers
    rw [List.map_map] at this
    exact this.trans (by decide)
  · have := congrArg (List.map fun post : Post => (post.id.number, post.author.number)) hposts
    rw [List.map_map] at this
    exact this.trans (by decide)

end Memory

end Bulletin
