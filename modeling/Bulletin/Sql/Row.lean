import Bulletin.Model.Post
import Bulletin.Model.User
import Bulletin.Store.Error

namespace Bulletin

def Timestamp.ofRow (micros : Int64) : Timestamp :=
  ⟨(micros.toInt + 946_684_800_000_000) * 1000, 0⟩

namespace Sql

structure UserRow where
  userId : Option Int64
  email : Option String
  firstName : Option String
  lastName : Option String
  isActive : Option Bool
  createdAt : Option Int64
  updatedAt : Option Int64
  deriving DecidableEq

structure PostRow where
  postId : Option Int64
  title : Option String
  content : Option String
  userId : Option Int64
  published : Option Bool
  createdAt : Option Int64
  updatedAt : Option Int64
  deriving DecidableEq

structure UserRecord where
  userId : Int64
  email : String
  firstName : String
  lastName : String
  isActive : Bool
  createdAt : Timestamp
  updatedAt : Timestamp
  deriving DecidableEq

structure PostRecord where
  postId : Int64
  title : String
  content : String
  userId : Int64
  published : Bool
  createdAt : Timestamp
  updatedAt : Timestamp
  deriving DecidableEq

def column (name : String) : Option α → Except DatabaseError α
  | some a => .ok a
  | none => .error (.unexpectedNull (.named name))

def UserRow.decode (r : UserRow) : Except DatabaseError UserRecord :=
  return {
    userId := ← column "user_id" r.userId
    email := ← column "email" r.email
    firstName := ← column "first_name" r.firstName
    lastName := ← column "last_name" r.lastName
    isActive := ← column "is_active" r.isActive
    createdAt := .ofRow (← column "created_at" r.createdAt)
    updatedAt := .ofRow (← column "updated_at" r.updatedAt) }

def PostRow.decode (r : PostRow) : Except DatabaseError PostRecord :=
  return {
    postId := ← column "post_id" r.postId
    title := ← column "title" r.title
    content := ← column "content" r.content
    userId := ← column "user_id" r.userId
    published := ← column "published" r.published
    createdAt := .ofRow (← column "created_at" r.createdAt)
    updatedAt := .ofRow (← column "updated_at" r.updatedAt) }

def UserRecord.toUser (r : UserRecord) : Except Email.Invalid User :=
  return {
    id := .ofRow r.userId
    email := ← Email.ofText r.email
    firstName := r.firstName
    lastName := r.lastName
    isActive := r.isActive
    createdAt := r.createdAt
    updatedAt := r.updatedAt }

def PostRecord.toPost (r : PostRecord) : Post where
  id := .ofRow r.postId
  title := r.title
  content := r.content
  author := .ofRow r.userId
  published := r.published
  createdAt := r.createdAt
  updatedAt := r.updatedAt

end Sql

end Bulletin
