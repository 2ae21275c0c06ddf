import Mathlib.Data.List.Forall2
import Bulletin.Sql.Row

namespace Bulletin.Sql

variable {α β : Type}

def firstNull (columns : List (String × Bool)) : Option String := (columns.find? (·.2)).map (·.1)

namespace UserRow

variable (row : UserRow)

def null? : Option String :=
  firstNull [("user_id", row.userId.isNone), ("email", row.email.isNone),
    ("first_name", row.firstName.isNone), ("last_name", row.lastName.isNone),
    ("is_active", row.isActive.isNone), ("created_at", row.createdAt.isNone),
    ("updated_at", row.updatedAt.isNone)]

def refused? : Option Email.Invalid :=
  row.email.bind fun s => match Email.ofText s with
    | .ok _ => none
    | .error e => some e

structure Carries (user : User) : Prop where
  id : row.userId.map .ofRow = some user.id
  email : row.email = some user.email.text
  firstName : row.firstName = some user.firstName
  lastName : row.lastName = some user.lastName
  isActive : row.isActive = some user.isActive
  createdAt : row.createdAt.map .ofRow = some user.createdAt
  updatedAt : row.updatedAt.map .ofRow = some user.updatedAt

def read : Except StoreError User := do
  (← row.decode.mapError .database).toUser.mapError .data

end UserRow

namespace PostRow

variable (row : PostRow)

def null? : Option String :=
  firstNull [("post_id", row.postId.isNone), ("title", row.title.isNone),
    ("content", row.content.isNone), ("user_id", row.userId.isNone),
    ("published", row.published.isNone), ("created_at", row.createdAt.isNone),
    ("updated_at", row.updatedAt.isNone)]

structure Carries (post : Post) : Prop where
  id : row.postId.map .ofRow = some post.id
  title : row.title = some post.title
  content : row.content = some post.content
  author : row.userId.map .ofRow = some post.author
  published : row.published = some post.published
  createdAt : row.createdAt.map .ofRow = some post.createdAt
  updatedAt : row.updatedAt.map .ofRow = some post.updatedAt

def read : Except StoreError Post := do
  return (← row.decode.mapError .database).toPost

end PostRow

def readUsers (rows : List UserRow) : Except StoreError (List User) := do
  ((← (rows.mapM UserRow.decode).mapError .database).mapM UserRecord.toUser).mapError .data

def readPosts (rows : List PostRow) : Except StoreError (List Post) := do
  return (← (rows.mapM PostRow.decode).mapError .database).map PostRecord.toPost

/-- What rows are read as: all of them are carried over, in their order, if none has a null and none
is refused. A null in any row is reported before what is refused in another. -/
structure AllOrNothing (null? : α → Option String) (refused? : α → Option Email.Invalid)
    (Carries : α → β → Prop) (rows : List α) (result : Except StoreError (List β)) : Prop where
  listed : (∃ items, result = .ok items) ↔ ∀ row ∈ rows, null? row = none ∧ refused? row = none
  carried : ∀ items, result = .ok items → List.Forall₂ Carries rows items
  null : ∀ name, rows.findSome? null? = some name →
    result = .error (.database (.unexpectedNull (.named name)))
  refused : rows.findSome? null? = none → ∀ e, rows.findSome? refused? = some e →
    result = .error (.data e)

end Bulletin.Sql
