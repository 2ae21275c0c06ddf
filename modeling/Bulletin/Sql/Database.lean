import Mathlib.Algebra.Group.Nat.Defs
import Mathlib.Data.Multiset.Filter
import Mathlib.Data.Multiset.MapFold
import Bulletin.Service.Respond
import Bulletin.Sql.Client

/-!
What the statements mean to a database that has the tables of the service: which rows they select,
what they make of the tables, and when a constraint refuses them.
-/

namespace Bulletin.Sql

structure StoredUser where
  userId : Int64
  email : String
  firstName : String
  lastName : String
  isActive : Bool
  createdAt : Int64
  updatedAt : Int64
  deriving DecidableEq

structure StoredPost where
  postId : Int64
  title : String
  content : String
  userId : Int64
  published : Bool
  createdAt : Int64
  updatedAt : Int64
  deriving DecidableEq

structure Tables where
  users : Multiset StoredUser := 0
  posts : Multiset StoredPost := 0
  lastUser : Nat := 0
  lastPost : Nat := 0

namespace StoredUser

def row (u : StoredUser) : UserRow :=
  ⟨u.userId, u.email, u.firstName, u.lastName, u.isActive, u.createdAt, u.updatedAt⟩

def update (now : Int64) (email firstName lastName : Option String) (isActive : Option Bool)
    (u : StoredUser) : StoredUser :=
  { u with
    email := email.getD u.email
    firstName := firstName.getD u.firstName
    lastName := lastName.getD u.lastName
    isActive := isActive.getD u.isActive
    updatedAt := max now (u.updatedAt + 1) }

end StoredUser

namespace StoredPost

def row (p : StoredPost) : PostRow :=
  ⟨p.postId, p.title, p.content, p.userId, p.published, p.createdAt, p.updatedAt⟩

def update (now : Int64) (title content : Option String) (userId : Option Int64)
    (published : Option Bool) (p : StoredPost) : StoredPost :=
  { p with
    title := title.getD p.title
    content := content.getD p.content
    userId := userId.getD p.userId
    published := published.getD p.published
    updatedAt := max now (p.updatedAt + 1) }

end StoredPost

namespace Tables

def addUser (t : Tables) (new : StoredUser) : Tables :=
  { t with users := new ::ₘ t.users, lastUser := t.lastUser + 1 }

def updateUser (t : Tables) (id : Int64) (update : StoredUser → StoredUser) : Tables :=
  { t with users := t.users.map fun u => if u.userId = id then update u else u }

def deleteUser (t : Tables) (id : Int64) : Tables :=
  { t with users := t.users.filter (·.userId ≠ id), posts := t.posts.filter (·.userId ≠ id) }

def addPost (t : Tables) (new : StoredPost) : Tables :=
  { t with posts := new ::ₘ t.posts, lastPost := t.lastPost + 1 }

def updatePost (t : Tables) (id : Int64) (update : StoredPost → StoredPost) : Tables :=
  { t with posts := t.posts.map fun p => if p.postId = id then update p else p }

def deletePost (t : Tables) (id : Int64) : Tables :=
  { t with posts := t.posts.filter (·.postId ≠ id) }

end Tables

inductive Constraint where
  | email | author
  deriving DecidableEq

def Constraint.name : Constraint → String
  | .email => "users_email_key"
  | .author => "posts_user_id_fkey"

def Tables.Meets (t : Tables) : Constraint → Prop
  | .email => (t.users.map (·.email)).Nodup
  | .author => ∀ post ∈ t.posts, ∃ user ∈ t.users, user.userId = post.userId

/-- A write succeeds as a whole, or a constraint that it would break refuses it. -/
inductive Commits {α : Type} (t aim : Tables) (answer : α) : Except Refusal α → Tables → Prop
  | done : (∀ c, aim.Meets c) → Commits t aim answer (.ok answer) aim
  | refused {c r} : ¬ aim.Meets c → r.constraint = some (Constraint.name c) →
    Commits t aim answer (.error r) t

def Selects (rows : Multiset α) (row : α → β) (reply : Except Refusal (List β)) : Prop :=
  ∃ found : List α, found = rows ∧ reply = .ok (found.map row)

def SelectsBy (key : α → Int64) (rows : Multiset α) (row : α → β)
    (reply : Except Refusal (List β)) : Prop :=
  ∃ found : List α, found = rows ∧ found.Pairwise (key · ≤ key ·) ∧ reply = .ok (found.map row)

/-- What a statement may be answered at a reading of the clock, and the tables afterwards. An insert
gets the next id, as long as there is one. -/
def Statement.Meaning (now : Int64) (t : Tables) : (s : Statement) → s.Reply → Tables → Prop
  | .listUsers, reply, t' => t' = t ∧ SelectsBy StoredUser.userId t.users StoredUser.row reply
  | .fetchUser id, reply, t' =>
    t' = t ∧ Selects (t.users.filter (·.userId = id)) StoredUser.row reply
  | .insertUser email firstName lastName isActive, reply, t' =>
    let new : StoredUser :=
      ⟨.ofNat (t.lastUser + 1), email, firstName, lastName, isActive, now, now⟩
    ((∀ c, (t.addUser new).Meets c) → t.lastUser + 1 < 2 ^ 63) →
      Commits t (t.addUser new) [new.row] reply t'
  | .updateUser id email firstName lastName isActive, reply, t' =>
    let update := StoredUser.update now email firstName lastName isActive
    ∃ changed : List StoredUser, changed = (t.users.filter (·.userId = id)).map update ∧
      Commits t (t.updateUser id update) (changed.map StoredUser.row) reply t'
  | .deleteUser id, reply, t' =>
    Commits t (t.deleteUser id) (t.users.filter (·.userId = id)).card reply t'
  | .userExists id, reply, t' =>
    t' = t ∧ ∃ found : Bool, (found ↔ ∃ u ∈ t.users, u.userId = id) ∧ reply = .ok [some found]
  | .listPosts, reply, t' => t' = t ∧ SelectsBy StoredPost.postId t.posts StoredPost.row reply
  | .fetchPost id, reply, t' =>
    t' = t ∧ Selects (t.posts.filter (·.postId = id)) StoredPost.row reply
  | .listUserPosts id, reply, t' =>
    t' = t ∧ SelectsBy StoredPost.postId (t.posts.filter (·.userId = id)) StoredPost.row reply
  | .insertPost title content userId published, reply, t' =>
    let new : StoredPost := ⟨.ofNat (t.lastPost + 1), title, content, userId, published, now, now⟩
    ((∀ c, (t.addPost new).Meets c) → t.lastPost + 1 < 2 ^ 63) →
      Commits t (t.addPost new) [new.row] reply t'
  | .updatePost id title content userId published, reply, t' =>
    let update := StoredPost.update now title content userId published
    ∃ changed : List StoredPost, changed = (t.posts.filter (·.postId = id)).map update ∧
      Commits t (t.updatePost id update) (changed.map StoredPost.row) reply t'
  | .deletePost id, reply, t' =>
    Commits t (t.deletePost id) (t.posts.filter (·.postId = id)).card reply t'

/-- Whatever keeps the tables and answers every statement by its meaning. -/
structure Database where
  State : Type
  tables : State → Tables
  answer : Int64 → (s : Statement) → State → s.Reply × State
  meaning : ∀ (now : Int64) (s : Statement) (state : State),
    s.Meaning now (tables state) (answer now s state).1 (tables (answer now s state).2)

namespace Database

variable (db : Database)

def answerRequest (now : Int64) (request : Request) (state : db.State) : Response × db.State :=
  (Client.overDatabase (Service.respond request)).run (db.answer now) state

def responses (state : db.State) : List (Int64 × Request) → List Response
  | [] => []
  | (now, request) :: requests =>
    (db.answerRequest now request state).1 ::
      responses (db.answerRequest now request state).2 requests

end Database

end Bulletin.Sql
