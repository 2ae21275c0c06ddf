import Bulletin.Model.Post
import Bulletin.Model.User
import Bulletin.View.PayloadReader

namespace Bulletin

open Json (Scalar)

def Id.scalar {entity : Entity} : Scalar (Id entity) := Scalar.natural.map .mk

def Email.scalar : Scalar Email where
  late := true
  accept token := match Scalar.text.accept token with
    | .error cause => .error cause
    | .ok s => (Email.ofText s).mapError (.refused ·.message)

structure Form (α : Type) where
  view : View
  read : PayloadReader.Reading (Option α)

namespace Form

open PayloadReader

def parse (form : Form α) (mode : Intent) (payload : Json.Members) : Except FieldErrors α :=
  let (parsed, r) := form.read.run (.ofPayload form.view mode payload)
  r.conclude parsed

def newUser : Form NewUser where
  view := .user
  read := do
    let email ← required Email.scalar "email"
    let firstName ← text "first_name" nameMaxLength
    let lastName ← text "last_name" nameMaxLength
    let isActive ← optional Scalar.flag "is_active"
    return return ⟨← email, ← firstName, ← lastName, isActive.getD true⟩

def userChanges : Form UserChanges where
  view := .user
  read := do
    let email ← required Email.scalar "email"
    let firstName ← text "first_name" nameMaxLength
    let lastName ← text "last_name" nameMaxLength
    let isActive ← optional Scalar.flag "is_active"
    return some { email, firstName, lastName, isActive }

def newPost : Form NewPost where
  view := .postCreate
  read := do
    let title ← text "title" titleMaxLength
    let content ← text "content" none
    let author ← required Id.scalar "author"
    let published ← optional Scalar.flag "published"
    return return ⟨← title, ← content, ← author, published.getD false⟩

def postChanges : Form PostChanges where
  view := .post
  read := do
    let title ← text "title" titleMaxLength
    let content ← text "content" none
    let author ← required Id.scalar "author"
    let published ← optional Scalar.flag "published"
    return some { title, content, author, published }

end Form

end Bulletin
