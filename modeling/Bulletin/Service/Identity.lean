import Bulletin.Service.Respond
import Bulletin.Sql.Sent

namespace Bulletin

open Sql

def Call.ids : Call → List UInt64
  | .listUsers | .createUser _ | .listPosts => []
  | .fetchUser id | .updateUser id _ | .deleteUser id | .fetchUserPosts id => [id.number]
  | .fetchPost id | .deletePost id => [id.number]
  | .createPost new => [new.author.number]
  | .updatePost id changes => id.number :: (changes.author.map (·.number)).toList

namespace Sql

def Param.integer? : Param → Option Int64
  | .integer n => some n
  | _ => none

def Statement.integers (s : Statement) : List Int64 := s.params.filterMap Param.integer?

/-- Something is sent for the call, and whatever is sent has the rows of its ids for numbers. -/
structure Client.BindsIds {σ : Type} (reply : (s : Statement) → σ → s.Reply × σ) (state : σ)
    (c : Call) : Prop where
  sends : sentFor reply state c ≠ []
  integers : ∀ x ∈ sentFor reply state c, x.1.integers = c.ids.map UInt64.toInt64

end Sql

def Json.UpToBlanks (core text : Bytes) : Prop :=
  ∃ before after, (∀ b ∈ before ++ after, Lexer.isBlank b) ∧ text = before ++ core ++ after

namespace Id

variable {entity : Entity}

def Spelled (id : Id entity) (text : Bytes) : Prop :=
  ∃ s, Numeral.Canonical s id.number.toNat ∧ Json.UpToBlanks (utf8 s) text

/-- As JSON, an id is its canonical numeral and nothing else. -/
structure Decimal (id : Id entity) : Prop where
  decoded : ∀ text, Id.scalar.decode text = .ok id ↔ id.Spelled text
  read : ∀ text, (∃ value, Json.read text = .ok value ∧ Id.scalar.ofJson value = .ok id) ↔
    id.Spelled text
  written : ∀ s, Numeral.Canonical s id.number.toNat → id.write = utf8 s

structure Readable (id : Id entity) : Prop where
  shown : utf8 (toString id) = id.write
  segment : ∀ s, utf8 s = id.write → Service.idOfSegment s = .ok id

structure ReadAs (id : UserId) (value : Json) : Prop where
  required : ∀ r : PayloadReader, r.fields.get? "author" = some value →
    ∃ r', (PayloadReader.required Id.scalar "author").run r = (some id, r') ∧ r'.errors = r.errors
  newPost : ∀ mode payload new, Json.Members.get? payload "author" = some value →
    Form.newPost.parse mode payload = .ok new → new.author = id
  changes : ∀ mode payload changes, Json.Members.get? payload "author" = some value →
    Form.postChanges.parse mode payload = .ok changes → changes.author = some id

def ReadableAuthor (id : UserId) : Prop :=
  ∃ value, Json.read id.write = .ok value ∧ id.ReadAs value ∧
    Json.readObject (Json.Write.object [("author", id.write)]) = .ok [("author", value)]

/-- The number of a row makes an id that stands for the row in every form. -/
structure StandsFor (row : Int64) : Prop where
  user : ∀ record user, UserRecord.userId record = row → record.toUser = .ok user →
    user.id = ofRow row
  post : ∀ record, PostRecord.postId record = row → record.toPost.id = ofRow row
  author : ∀ record, PostRecord.userId record = row → record.toPost.author = ofRow row
  readable : ∀ entity, (ofRow row : Id entity).Readable
  readableAuthor : (ofRow row : UserId).ReadableAuthor
  bound : ∀ entity, (ofRow row : Id entity).toRow = row

end Id

end Bulletin
