import Bulletin.Store.Call
import Bulletin.Store.Table

namespace Bulletin

structure Memory where
  users : Table .user User := {}
  posts : Table .post Post := {}
  deriving DecidableEq

namespace Memory

def emailInUse (m : Memory) (email : Email) (except : Option UserId) : Bool :=
  m.users.values.any fun u => u.email = email && some u.id ≠ except

def createUser (now : Timestamp) (new : NewUser) (m : Memory) : Except StoreError User × Memory :=
  if m.emailInUse new.email none then (.error (.emailTaken new.email), m)
  else
    let (user, users) := m.users.add fun id => new.toUser id now
    (.ok user, { m with users })

def updateUser (now : Timestamp) (id : UserId) (changes : UserChanges) (m : Memory) :
    Except StoreError (Option User) × Memory :=
  match changes.email.filter (m.emailInUse · (some id)) with
  | some email => (.error (.emailTaken email), m)
  | none => match m.users.get? id with
    | none => (.ok none, m)
    | some user =>
      let user := changes.revise now user
      (.ok (some user), { m with users := m.users.replace id user })

def deleteUser (id : UserId) (m : Memory) : Bool × Memory :=
  if m.users.contains id then (true, ⟨m.users.erase id, m.posts.filter (·.author ≠ id)⟩)
  else (false, m)

def userPosts (id : UserId) (m : Memory) : Option (List Post) :=
  if m.users.contains id then some (m.posts.values.filter (·.author = id)) else none

def createPost (now : Timestamp) (new : NewPost) (m : Memory) : Except StoreError Post × Memory :=
  if m.users.contains new.author then
    let (post, posts) := m.posts.add fun id => new.toPost id now
    (.ok post, { m with posts })
  else (.error (.unknownAuthor new.author), m)

def updatePost (now : Timestamp) (id : PostId) (changes : PostChanges) (m : Memory) :
    Except StoreError (Option Post) × Memory :=
  match m.posts.get? id with
  | none => (.ok none, m)
  | some post => match changes.author.filter (!m.users.contains ·) with
    | some author => (.error (.unknownAuthor author), m)
    | none =>
      let post := changes.revise now post
      (.ok (some post), { m with posts := m.posts.replace id post })

def deletePost (id : PostId) (m : Memory) : Bool × Memory :=
  (m.posts.contains id, { m with posts := m.posts.erase id })

def exec (now : Timestamp) : (c : Call) → Memory → c.Reply × Memory
  | .listUsers, m => (.ok m.users.values, m)
  | .fetchUser id, m => (.ok (m.users.get? id), m)
  | .createUser new, m => m.createUser now new
  | .updateUser id changes, m => m.updateUser now id changes
  | .deleteUser id, m => let (found, m) := m.deleteUser id; (.ok found, m)
  | .listPosts, m => (.ok m.posts.values, m)
  | .fetchPost id, m => (.ok (m.posts.get? id), m)
  | .fetchUserPosts id, m => (.ok (m.userPosts id), m)
  | .createPost new, m => m.createPost now new
  | .updatePost id changes, m => m.updatePost now id changes
  | .deletePost id, m => let (found, m) := m.deletePost id; (.ok found, m)

def run (now : Timestamp) (program : StoreProgram α) (m : Memory) : α × Memory :=
  program.run (exec now) m

end Memory

end Bulletin
