import Bulletin.Json.Record
import Bulletin.Time.Rfc3339
import Bulletin.View.Form

namespace Bulletin

open Json (Scalar Member Record)

def Timestamp.scalar : Scalar Timestamp where
  accept
    | .text s => (Rfc3339.read (utf8 s)).mapError (.refused ·.message)
    | found => .error (.invalidType found "an RFC3339-formatted `OffsetDateTime`")

def Timestamp.write? (t : Timestamp) : Option Bytes :=
  (Rfc3339.write? t).map fun text => Ascii.quote :: text ++ [Ascii.quote]

/-- The years of these times have at most four digits. -/
def Timestamp.FourDigits (times : List Timestamp) : Prop :=
  ∀ t ∈ times, 0 ≤ t.date.year ∧ t.date.year ≤ 9999

def Id.write {entity : Entity} (id : Id entity) : Bytes := Json.Write.natural id.number.toNat

def Email.write (e : Email) : Bytes := Json.Write.text e.text

def writeList? (write? : α → Option Bytes) (items : List α) : Option Bytes :=
  (items.mapM write?).map Json.Write.list

def need (name : String) : Option α → Except String α
  | some a => .ok a
  | none => .error name

namespace User

def write? (u : User) : Option Bytes := do
  let createdAt ← u.createdAt.write?
  let updatedAt ← u.updatedAt.write?
  return Json.Write.object [
    ("id", u.id.write),
    ("email", u.email.write),
    ("first_name", Json.Write.text u.firstName),
    ("last_name", Json.Write.text u.lastName),
    ("is_active", Json.Write.flag u.isActive),
    ("created_at", createdAt),
    ("updated_at", updatedAt)]

structure Draft where
  id : Option UserId := none
  email : Option Email := none
  firstName : Option String := none
  lastName : Option String := none
  isActive : Option Bool := none
  createdAt : Option Timestamp := none
  updatedAt : Option Timestamp := none

def Draft.finish (d : Draft) : Except String User := do
  return {
    id := ← need "id" d.id
    email := ← need "email" d.email
    firstName := ← need "first_name" d.firstName
    lastName := ← need "last_name" d.lastName
    isActive := ← need "is_active" d.isActive
    createdAt := ← need "created_at" d.createdAt
    updatedAt := ← need "updated_at" d.updatedAt }

def record : Record Draft User where
  name := "struct UserView"
  members := [
    .of "id" Id.scalar Draft.id fun a d => { d with id := a },
    .of "email" Email.scalar Draft.email fun a d => { d with email := a },
    .of "first_name" Scalar.text Draft.firstName fun a d => { d with firstName := a },
    .of "last_name" Scalar.text Draft.lastName fun a d => { d with lastName := a },
    .of "is_active" Scalar.flag Draft.isActive fun a d => { d with isActive := a },
    .of "created_at" Timestamp.scalar Draft.createdAt fun a d => { d with createdAt := a },
    .of "updated_at" Timestamp.scalar Draft.updatedAt fun a d => { d with updatedAt := a }]
  blank := {}
  finish := Draft.finish

end User

structure PostView where
  post : Post
  authorName : String
  deriving DecidableEq

/-- A stored post whose author is not found. -/
structure Orphan where
  post : PostId
  author : UserId
  deriving DecidableEq

def Orphan.message (d : Orphan) : String :=
  "Post " ++ toString d.post ++ " references user " ++ toString d.author ++ ", which does not exist"

namespace PostView

def render (post : Post) (author : Option User) : Except Orphan PostView :=
  match author.filter (·.id = post.author) with
  | some author => .ok ⟨post, author.firstName⟩
  | none => .error ⟨post.id, post.author⟩

def write? (v : PostView) : Option Bytes := do
  let createdAt ← v.post.createdAt.write?
  let updatedAt ← v.post.updatedAt.write?
  return Json.Write.object [
    ("id", v.post.id.write),
    ("title", Json.Write.text v.post.title),
    ("content", Json.Write.text v.post.content),
    ("author", v.post.author.write),
    ("author_name", Json.Write.text v.authorName),
    ("published", Json.Write.flag v.post.published),
    ("created_at", createdAt),
    ("updated_at", updatedAt)]

structure Draft where
  id : Option PostId := none
  title : Option String := none
  content : Option String := none
  author : Option UserId := none
  authorName : Option String := none
  published : Option Bool := none
  createdAt : Option Timestamp := none
  updatedAt : Option Timestamp := none

def Draft.finish (d : Draft) : Except String PostView := do
  let id ← need "id" d.id
  let title ← need "title" d.title
  let content ← need "content" d.content
  let author ← need "author" d.author
  let authorName ← need "author_name" d.authorName
  let published ← need "published" d.published
  let createdAt ← need "created_at" d.createdAt
  let updatedAt ← need "updated_at" d.updatedAt
  return { post := { id, title, content, author, published, createdAt, updatedAt }, authorName }

def record : Record Draft PostView where
  name := "struct PostView"
  members := [
    .of "id" Id.scalar Draft.id fun a d => { d with id := a },
    .of "title" Scalar.text Draft.title fun a d => { d with title := a },
    .of "content" Scalar.text Draft.content fun a d => { d with content := a },
    .of "author" Id.scalar Draft.author fun a d => { d with author := a },
    .of "author_name" Scalar.text Draft.authorName fun a d => { d with authorName := a },
    .of "published" Scalar.flag Draft.published fun a d => { d with published := a },
    .of "created_at" Timestamp.scalar Draft.createdAt fun a d => { d with createdAt := a },
    .of "updated_at" Timestamp.scalar Draft.updatedAt fun a d => { d with updatedAt := a }]
  blank := {}
  finish := Draft.finish

end PostView

end Bulletin
