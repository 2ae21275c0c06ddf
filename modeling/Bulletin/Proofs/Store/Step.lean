import Bulletin.Proofs.Store.Table
import Bulletin.Store.History

namespace Bulletin

namespace Event

variable {e : Event} (h : e.wrote = false)
include h

theorem createdUser?_of_not_wrote : e.createdUser? = none := by
  unfold createdUser?
  split
  · cases h
  · rfl

theorem createdPost?_of_not_wrote : e.createdPost? = none := by
  unfold createdPost?
  split
  · cases h
  · rfl

theorem onUser_of_not_wrote (user : User) : onUser user e = some user := by
  unfold onUser
  split
  · cases h
  · cases h
  · rfl

theorem onPost_of_not_wrote (post : Post) : onPost post e = some post := by
  unfold onPost
  split
  · cases h
  · cases h
  · cases h
  · rfl

end Event

namespace Memory

inductive Step (now : Timestamp) (m : Memory) : Event → Memory → Prop
  | idle {e} : e.wrote = false → Step now m e m
  | createUser {new : NewUser} : m.emailInUse new.email none = false →
    Step now m ⟨.createUser new, .ok (new.toUser ⟨m.users.last + 1⟩ now)⟩
      { m with users := (m.users.add fun id => new.toUser id now).2 }
  | updateUser {id changes user} : m.users.get? id = some user →
    (∀ email, changes.email = some email → m.emailInUse email (some id) = false) →
    Step now m ⟨.updateUser id changes, .ok (some (changes.revise now user))⟩
      { m with users := m.users.replace id (changes.revise now user) }
  | deleteUser {id} : m.users.contains id →
    Step now m ⟨.deleteUser id, .ok true⟩ ⟨m.users.erase id, m.posts.filter (·.author ≠ id)⟩
  | createPost {new : NewPost} : m.users.contains new.author →
    Step now m ⟨.createPost new, .ok (new.toPost ⟨m.posts.last + 1⟩ now)⟩
      { m with posts := (m.posts.add fun id => new.toPost id now).2 }
  | updatePost {id changes post} : m.posts.get? id = some post →
    (∀ author, changes.author = some author → m.users.contains author) →
    Step now m ⟨.updatePost id changes, .ok (some (changes.revise now post))⟩
      { m with posts := m.posts.replace id (changes.revise now post) }
  | deletePost {id} : m.posts.contains id →
    Step now m ⟨.deletePost id, .ok true⟩ { m with posts := m.posts.erase id }

theorem Step.eq_of_not_wrote {now : Timestamp} {m m' : Memory} {e : Event} (h : Step now m e m')
    (he : e.wrote = false) : m' = m := by
  cases h with
  | idle => rfl
  | _ => cases he

section Outcomes

variable {now : Timestamp} {m : Memory}

theorem createUser_of_taken {new : NewUser} (h : m.emailInUse new.email none) :
    m.createUser now new = (.error (.emailTaken new.email), m) := by
  simp [Memory.createUser, h]

theorem createUser_of_free {new : NewUser} (h : m.emailInUse new.email none = false) :
    m.createUser now new = (.ok (new.toUser ⟨m.users.last + 1⟩ now),
      { m with users := (m.users.add fun id => new.toUser id now).2 }) := by
  simp [Memory.createUser, h, Table.add]

theorem updateUser_of_taken {id : UserId} {changes : UserChanges} {email : Email}
    (hemail : changes.email = some email) (h : m.emailInUse email (some id)) :
    m.updateUser now id changes = (.error (.emailTaken email), m) := by
  simp [Memory.updateUser, hemail, Option.filter, h]

theorem updateUser_of_free {id : UserId} {changes : UserChanges} {user : User}
    (hfound : m.users.get? id = some user)
    (hfree : ∀ email, changes.email = some email → m.emailInUse email (some id) = false) :
    m.updateUser now id changes = (.ok (some (changes.revise now user)),
      { m with users := m.users.replace id (changes.revise now user) }) := by
  cases hemail : changes.email with
  | none => simp [Memory.updateUser, hemail, hfound]
  | some email => simp [Memory.updateUser, hemail, Option.filter, hfree email hemail, hfound]

theorem createPost_of_unknown {new : NewPost} (h : m.users.contains new.author = false) :
    m.createPost now new = (.error (.unknownAuthor new.author), m) := by
  simp [Memory.createPost, h]

theorem createPost_of_known {new : NewPost} (h : m.users.contains new.author) :
    m.createPost now new = (.ok (new.toPost ⟨m.posts.last + 1⟩ now),
      { m with posts := (m.posts.add fun id => new.toPost id now).2 }) := by
  simp [Memory.createPost, h, Table.add]

theorem updatePost_of_missing {id : PostId} {changes : PostChanges}
    (hfound : m.posts.get? id = none) : m.updatePost now id changes = (.ok none, m) := by
  simp [Memory.updatePost, hfound]

theorem updatePost_of_unknown {id : PostId} {changes : PostChanges} {post : Post}
    {author : UserId} (hfound : m.posts.get? id = some post)
    (hauthor : changes.author = some author) (h : m.users.contains author = false) :
    m.updatePost now id changes = (.error (.unknownAuthor author), m) := by
  simp [Memory.updatePost, hfound, hauthor, Option.filter, h]

theorem updatePost_of_known {id : PostId} {changes : PostChanges} {post : Post}
    (hfound : m.posts.get? id = some post)
    (hknown : ∀ author, changes.author = some author → m.users.contains author) :
    m.updatePost now id changes = (.ok (some (changes.revise now post)),
      { m with posts := m.posts.replace id (changes.revise now post) }) := by
  cases hauthor : changes.author with
  | none => simp [Memory.updatePost, hauthor, hfound]
  | some author => simp [Memory.updatePost, hauthor, Option.filter, hknown author hauthor, hfound]

end Outcomes

section Steps

variable (now : Timestamp) (m : Memory)

theorem step_createUser (new : NewUser) :
    Step now m ⟨.createUser new, (m.createUser now new).1⟩ (m.createUser now new).2 := by
  unfold Memory.createUser
  split
  case isTrue => exact .idle rfl
  case isFalse h => exact .createUser (by simpa using h)

theorem step_updateUser (id : UserId) (changes : UserChanges) :
    Step now m ⟨.updateUser id changes, (m.updateUser now id changes).1⟩
      (m.updateUser now id changes).2 := by
  unfold Memory.updateUser
  split
  case h_1 => exact .idle rfl
  case h_2 hfree =>
    split
    case h_1 => exact .idle rfl
    case h_2 user hfound =>
      refine .updateUser hfound fun email hemail => ?_
      simpa [hemail, Option.filter] using hfree

theorem step_deleteUser (id : UserId) :
    Step now m ⟨.deleteUser id, .ok (m.deleteUser id).1⟩ (m.deleteUser id).2 := by
  unfold Memory.deleteUser
  split
  case isTrue h => exact .deleteUser h
  case isFalse => exact .idle rfl

theorem step_createPost (new : NewPost) :
    Step now m ⟨.createPost new, (m.createPost now new).1⟩ (m.createPost now new).2 := by
  unfold Memory.createPost
  split
  case isTrue h => exact .createPost h
  case isFalse => exact .idle rfl

theorem step_updatePost (id : PostId) (changes : PostChanges) :
    Step now m ⟨.updatePost id changes, (m.updatePost now id changes).1⟩
      (m.updatePost now id changes).2 := by
  unfold Memory.updatePost
  split
  case h_1 => exact .idle rfl
  case h_2 post hfound =>
    split
    case h_1 => exact .idle rfl
    case h_2 hknown =>
      refine .updatePost hfound fun author hauthor => ?_
      simpa [hauthor, Option.filter] using hknown

theorem step_deletePost (id : PostId) :
    Step now m ⟨.deletePost id, .ok (m.deletePost id).1⟩ (m.deletePost id).2 := by
  unfold Memory.deletePost
  cases h : m.posts.contains id with
  | true => exact .deletePost h
  | false =>
    rw [Table.erase_of_not_contains h]
    exact .idle rfl

theorem exec_step (c : Call) : Step now m ⟨c, (m.exec now c).1⟩ (m.exec now c).2 := by
  cases c with
  | createUser new => exact step_createUser now m new
  | updateUser id changes => exact step_updateUser now m id changes
  | deleteUser id => exact step_deleteUser now m id
  | createPost new => exact step_createPost now m new
  | updatePost id changes => exact step_updatePost now m id changes
  | deletePost id => exact step_deletePost now m id
  | _ => exact .idle rfl

end Steps

end Memory

end Bulletin
