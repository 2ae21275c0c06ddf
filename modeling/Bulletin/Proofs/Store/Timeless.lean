import Bulletin.Proofs.Store.Sound

namespace Bulletin

def User.timeless (user : User) : User := { user with createdAt := ⟨0, 0⟩, updatedAt := ⟨0, 0⟩ }

def Post.timeless (post : Post) : Post := { post with createdAt := ⟨0, 0⟩, updatedAt := ⟨0, 0⟩ }

theorem cases_of_map_eq {α β : Type} {f : α → β} {a? b? : Option α} (h : a?.map f = b?.map f) :
    (a? = none ∧ b? = none) ∨ ∃ a b, a? = some a ∧ b? = some b ∧ f a = f b := by
  cases a? with
  | none => cases b? with
    | none => exact .inl ⟨rfl, rfl⟩
    | some b => cases h
  | some a => cases b? with
    | none => cases h
    | some b => exact .inr ⟨a, b, rfl, rfl, Option.some.inj h⟩

theorem lookup_map {α β γ : Type} [BEq α] (f : β → γ) (key : α) (l : List (α × β)) :
    (l.map fun (k, b) => (k, f b)).lookup key = (l.lookup key).map f := by
  induction l with
  | nil => rfl
  | cons row rest ih =>
    obtain ⟨k, b⟩ := row
    cases hkey : key == k with
    | true => simp [List.lookup_cons, hkey]
    | false => simp [List.lookup_cons, hkey, ih]

section Revise

variable {now now' : Timestamp}

theorem UserChanges.revise_timeless {user user' : User} (h : user.timeless = user'.timeless)
    (changes : UserChanges) :
    (changes.revise now user).timeless = (changes.revise now' user').timeless := by
  simp [User.timeless] at h
  simp [revise, applyTo, User.timeless, h]

theorem PostChanges.revise_timeless {post post' : Post} (h : post.timeless = post'.timeless)
    (changes : PostChanges) :
    (changes.revise now post).timeless = (changes.revise now' post').timeless := by
  simp [Post.timeless] at h
  simp [revise, applyTo, Post.timeless, h]

end Revise

namespace Table

variable {entity : Entity} {α : Type}

def map (f : α → α) (t : Table entity α) : Table entity α :=
  { t with rows := t.rows.map fun (key, a) => (key, f a) }

variable {t : Table entity α} {f : α → α} {id : Id entity}

@[simp] theorem values_map : (t.map f).values = t.values.map f := by
  simp [map, values, Function.comp_def]

@[simp] theorem get?_map : (t.map f).get? id = (t.get? id).map f := by
  simp only [map, get?, lookup_map]

@[simp] theorem contains_map : (t.map f).contains id = t.contains id := by
  simp [contains]

theorem map_place (a : α) (rows : List (Id entity × α)) :
    (place id a rows).map (fun (key, a) => (key, f a)) =
      place id (f a) (rows.map fun (key, a) => (key, f a)) := by
  induction rows with
  | nil => rfl
  | cons row rest ih =>
    obtain ⟨key, b⟩ := row
    simp only [place, List.map_cons]
    split
    · rfl
    split
    · rfl
    · rw [List.map_cons, ih]

theorem map_add (row : Id entity → α) :
    (t.add row).2.map f = ((t.map f).add fun id => f (row id)).2 := by
  simp [map, add, map_place]

theorem map_replace (a : α) : (t.replace id a).map f = (t.map f).replace id (f a) := by
  simp only [map, replace, List.map_map]
  congr 1
  apply List.map_congr_left
  intro row _
  by_cases hkey : row.1 = id <;> simp [hkey]

theorem map_erase : (t.erase id).map f = (t.map f).erase id := by
  simp [map, erase, List.filter_map, Function.comp_def]

theorem map_filter {p : α → Bool} (hp : ∀ a, p (f a) = p a) :
    (t.filter p).map f = (t.map f).filter p := by
  simp [map, filter, List.filter_map, Function.comp_def, hp]

section Congr

variable {t' : Table entity α} (h : t.map f = t'.map f)
include h

theorem last_congr : t.last = t'.last := by
  have hlast := congrArg Table.last h
  exact hlast

theorem values_congr : t.values.map f = t'.values.map f := by
  rw [← values_map, h, values_map]

theorem get?_congr (id : Id entity) : (t.get? id).map f = (t'.get? id).map f := by
  rw [← get?_map, h, get?_map]

theorem contains_congr (id : Id entity) : t.contains id = t'.contains id := by
  rw [← contains_map (f := f), h, contains_map]

end Congr

end Table

def Memory.timeless (m : Memory) : Memory := ⟨m.users.map User.timeless, m.posts.map Post.timeless⟩

def Call.timeless : (c : Call) → c.Result → c.Result
  | .listUsers, users => List.map User.timeless users
  | .fetchUser _, user => Option.map User.timeless user
  | .createUser _, user => User.timeless user
  | .updateUser _ _, user => Option.map User.timeless user
  | .deleteUser _, found => found
  | .listPosts, posts => List.map Post.timeless posts
  | .fetchPost _, post => Option.map Post.timeless post
  | .fetchUserPosts _, posts => Option.map (List.map Post.timeless) posts
  | .createPost _, post => Post.timeless post
  | .updatePost _ _, post => Option.map Post.timeless post
  | .deletePost _, found => found

def Call.SameReply (c : Call) (reply reply' : c.Reply) : Prop :=
  reply.map c.timeless = reply'.map c.timeless

namespace Memory

variable {m m' : Memory} {now now' : Timestamp}

theorem emailInUse_timeless (email : Email) (except : Option UserId) :
    m.timeless.emailInUse email except = m.emailInUse email except := by
  simp only [emailInUse, timeless, Table.values_map, List.any_map]
  rfl

def Same (c : Call) (outcome outcome' : c.Reply × Memory) : Prop :=
  c.SameReply outcome.1 outcome'.1 ∧ outcome.2.timeless = outcome'.2.timeless

section Same

variable (h : m.timeless = m'.timeless)
include h

theorem users_timeless : m.users.map User.timeless = m'.users.map User.timeless :=
  congrArg Memory.users h

theorem posts_timeless : m.posts.map Post.timeless = m'.posts.map Post.timeless :=
  congrArg Memory.posts h

theorem contains_user (id : UserId) : m.users.contains id = m'.users.contains id :=
  Table.contains_congr (users_timeless h) id

theorem emailInUse_eq (email : Email) (except : Option UserId) :
    m.emailInUse email except = m'.emailInUse email except := by
  rw [← emailInUse_timeless, h, emailInUse_timeless]

theorem userPosts_timeless (id : UserId) :
    (m.userPosts id).map (List.map Post.timeless) =
      (m'.userPosts id).map (List.map Post.timeless) := by
  have hfilter (m : Memory) : (m.posts.values.filter (·.author = id)).map Post.timeless =
      (m.posts.values.map Post.timeless).filter (·.author = id) := by
    rw [List.filter_map]
    rfl
  unfold userPosts
  rw [contains_user h]
  split
  · simp [hfilter, Table.values_congr (posts_timeless h)]
  · rfl

theorem same_createUser (new : NewUser) :
    Same (.createUser new) (m.createUser now new) (m'.createUser now' new) := by
  cases htaken : m.emailInUse new.email none with
  | true =>
    rw [createUser_of_taken htaken, createUser_of_taken (emailInUse_eq h _ _ ▸ htaken)]
    exact ⟨rfl, h⟩
  | false =>
    rw [createUser_of_free htaken, createUser_of_free (emailInUse_eq h _ _ ▸ htaken)]
    refine ⟨?_, ?_⟩
    · have hlast := Table.last_congr (users_timeless h)
      simp [Call.SameReply, Except.map, Call.timeless, hlast, NewUser.toUser, User.timeless]
    · simp only [timeless, Table.map_add, users_timeless h, posts_timeless h]
      rfl

theorem same_updateUser (id : UserId) (changes : UserChanges) :
    Same (.updateUser id changes) (m.updateUser now id changes)
      (m'.updateUser now' id changes) := by
  have hget := Table.get?_congr (users_timeless h) id
  simp only [updateUser, emailInUse_eq h]
  split
  · exact ⟨rfl, h⟩
  rcases cases_of_map_eq hget with ⟨hfound, hfound'⟩ | ⟨user, user', hfound, hfound', huser⟩
  · rw [hfound, hfound']
    exact ⟨rfl, h⟩
  · rw [hfound, hfound']
    have hrevise : (changes.revise now user).timeless = (changes.revise now' user').timeless :=
      changes.revise_timeless huser
    refine ⟨?_, ?_⟩
    · simp [Call.SameReply, Except.map, Call.timeless, hrevise]
    · simp only [timeless, Table.map_replace, users_timeless h, posts_timeless h, hrevise]

theorem same_deleteUser (id : UserId) : (m.deleteUser id).1 = (m'.deleteUser id).1 ∧
    (m.deleteUser id).2.timeless = (m'.deleteUser id).2.timeless := by
  unfold deleteUser
  rw [contains_user h]
  split
  · have hposts (m : Memory) : (m.posts.filter (·.author ≠ id)).map Post.timeless =
        (m.posts.map Post.timeless).filter (·.author ≠ id) := Table.map_filter fun _ => rfl
    refine ⟨rfl, ?_⟩
    simp only [timeless, Table.map_erase, hposts, users_timeless h, posts_timeless h]
  · exact ⟨rfl, h⟩

theorem same_createPost (new : NewPost) :
    Same (.createPost new) (m.createPost now new) (m'.createPost now' new) := by
  cases hknown : m.users.contains new.author with
  | false =>
    rw [createPost_of_unknown hknown, createPost_of_unknown (contains_user h _ ▸ hknown)]
    exact ⟨rfl, h⟩
  | true =>
    rw [createPost_of_known hknown, createPost_of_known (contains_user h _ ▸ hknown)]
    refine ⟨?_, ?_⟩
    · have hlast := Table.last_congr (posts_timeless h)
      simp [Call.SameReply, Except.map, Call.timeless, hlast, NewPost.toPost, Post.timeless]
    · simp only [timeless, Table.map_add, users_timeless h, posts_timeless h]
      rfl

theorem same_updatePost (id : PostId) (changes : PostChanges) :
    Same (.updatePost id changes) (m.updatePost now id changes)
      (m'.updatePost now' id changes) := by
  have hget := Table.get?_congr (posts_timeless h) id
  simp only [updatePost, contains_user h]
  rcases cases_of_map_eq hget with ⟨hfound, hfound'⟩ | ⟨post, post', hfound, hfound', hpost⟩
  · rw [hfound, hfound']
    exact ⟨rfl, h⟩
  rw [hfound, hfound']
  dsimp only
  split
  · exact ⟨rfl, h⟩
  · have hrevise : (changes.revise now post).timeless = (changes.revise now' post').timeless :=
      changes.revise_timeless hpost
    refine ⟨?_, ?_⟩
    · simp [Call.SameReply, Except.map, Call.timeless, hrevise]
    · simp only [timeless, Table.map_replace, users_timeless h, posts_timeless h, hrevise]

theorem same_deletePost (id : PostId) : (m.deletePost id).1 = (m'.deletePost id).1 ∧
    (m.deletePost id).2.timeless = (m'.deletePost id).2.timeless := by
  refine ⟨?_, ?_⟩
  · simp only [deletePost]
    rw [Table.contains_congr (posts_timeless h)]
  · simp only [deletePost, timeless, Table.map_erase, users_timeless h, posts_timeless h]

theorem exec_same (c : Call) : Same c (m.exec now c) (m'.exec now' c) := by
  cases c with
  | listUsers => exact ⟨congrArg Except.ok (Table.values_congr (users_timeless h)), h⟩
  | fetchUser id => exact ⟨congrArg Except.ok (Table.get?_congr (users_timeless h) id), h⟩
  | createUser new => exact same_createUser h new
  | updateUser id changes => exact same_updateUser h id changes
  | deleteUser id => exact ⟨congrArg Except.ok (same_deleteUser h id).1, (same_deleteUser h id).2⟩
  | listPosts => exact ⟨congrArg Except.ok (Table.values_congr (posts_timeless h)), h⟩
  | fetchPost id => exact ⟨congrArg Except.ok (Table.get?_congr (posts_timeless h) id), h⟩
  | fetchUserPosts id => exact ⟨congrArg Except.ok (userPosts_timeless h id), h⟩
  | createPost new => exact same_createPost h new
  | updatePost id changes => exact same_updatePost h id changes
  | deletePost id => exact ⟨congrArg Except.ok (same_deletePost h id).1, (same_deletePost h id).2⟩

end Same

end Memory

end Bulletin
