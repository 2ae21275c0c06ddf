import Bulletin.Service.Directory
import Bulletin.Service.ReadBack
import Bulletin.Service.Reported
import Bulletin.Store.Kind
import Bulletin.View.Judgement

namespace Bulletin

def Request.AnnouncesJson (request : Request) : Prop :=
  ∃ type ∈ request.contentType, MediaType.announcesJson (utf8 type)

def BodyFault.Of (request : Request) : BodyFault → Prop
  | mediaType => ¬ request.AnnouncesJson
  | tooLong => request.AnnouncesJson ∧ Service.maxBodyLength < request.body.length
  | refused e => request.AnnouncesJson ∧ request.body.length ≤ Service.maxBodyLength ∧
      Json.readObject request.body = .error e

structure Request.Edits (request : Request) (route : String → Route) (mode : Intent)
    (segment : String) : Prop where
  method : request.method = "PUT" ∧ mode = .replace ∨ request.method = "PATCH" ∧ mode = .patch
  listed : (route segment).Listed
  path : request.uri.path = (route segment).path

def Response.ofChanged : Option Bytes → Response
  | some body => .json .ok body
  | none => .internalFault

/-- What changes to users and changes to posts have in common. -/
structure Editing (entity : Entity) (α : Type) extends Kind entity α where
  route : String → Route
  put : Memory → α → Memory
  missing : Id entity → ServiceError
  offences : Intent → Json.Members → List (String × List String)
  Conflict : Memory → Id entity → Intent → Json.Members → ServiceError → Prop
  Given : Json.Members → α → Prop
  Kept : Json.Members → α → α → Prop
  shown : Memory → α → Option Bytes

namespace Editing

def users : Editing .user User where
  toKind := .users
  route := .user
  put := Memory.withUser
  missing := .userNotFound
  offences := userOffences
  Conflict m id mode payload e := ∃ email, Field.email.value? mode payload = some email ∧
    (∃ other ∈ m.users.values, other.id ≠ id ∧ other.email = email) ∧
    e = .validation (.single "email" "user with this email already exists.")
  Given := User.Given
  Kept := User.Kept
  shown _ := User.write?

def posts : Editing .post Post where
  toKind := .posts
  route := .post
  put := Memory.withPost
  missing := .postNotFound
  offences := postOffences
  Conflict m _ mode payload e := ∃ author, Field.author.value? mode payload = some author ∧
    (∀ user ∈ m.users.values, user.id ≠ author) ∧ e = .unknownAuthor author
  Given := Post.Given
  Kept := Post.Kept
  shown m post := (m.users.get? post.author).bind post.shownBy

inductive Stage where
  | path | body | presence | members | conflict
  deriving DecidableEq, Repr

namespace Stage

def rank : Stage → Nat
  | path => 0
  | body => 1
  | presence => 2
  | members => 3
  | conflict => 4

def status : Stage → Status
  | path | presence => .notFound
  | body | members | conflict => .badRequest

end Stage

section

variable {entity : Entity} {α : Type} (k : Editing entity α)
variable (m : Memory) (mode : Intent) (request : Request) (segment : String)

def Fails : Stage → ServiceError → Prop
  | .path, e => ∃ fault, PathFault.Of segment fault ∧ e = .path fault
  | .body, e => ∃ fault, BodyFault.Of request fault ∧ e = .body fault
  | .presence, e => ∃ id : Id entity, Segment.Names segment id.number ∧
      (k.table m).get? id = none ∧ e = k.missing id
  | .members, e => ∃ payload, Service.payload request = .ok payload ∧
      k.offences mode payload ≠ [] ∧ e = .validation ⟨k.offences mode payload⟩
  | .conflict, e => ∃ id payload, Segment.Names segment id.number ∧
      Service.payload request = .ok payload ∧ k.Conflict m id mode payload e

/-- Something is wrong at the stage, and nothing at an earlier one. -/
def FirstFails (stage : Stage) (e : ServiceError) : Prop :=
  k.Fails m mode request segment stage e ∧
    ∀ earlier, earlier.rank < stage.rank → ∀ e', ¬ k.Fails m mode request segment earlier e'

def Passes : Prop := ∀ stage e, ¬ k.Fails m mode request segment stage e

/-- What the id names has become `new`, as the payload has it, and everything else is as it was. -/
structure Edited (now : Timestamp) (id : Id entity) (payload : Json.Members) (m' : Memory)
    (new : α) : Prop where
  revised : ∃ old, (k.table m).get? id = some old ∧ k.Kept payload new old ∧
    k.updatedAt new = (k.updatedAt old).after now
  given : k.Given payload new
  found : (k.table m').get? id = some new
  others : ∀ other, other ≠ id → (k.table m').get? other = (k.table m).get? other
  left : m' = k.put m new

/-- The first stage at which something is wrong decides. If there is none, the change is made, and
it is shown unless its times cannot be written. -/
structure Staged (now : Timestamp) (r : Response) (m' : Memory) : Prop where
  decided : k.Passes m mode request segment ∨
    ∃ stage e, k.FirstFails m mode request segment stage e
  failed : ∀ stage e, k.FirstFails m mode request segment stage e →
    r = .ofError e ∧ r.status = stage.status ∧ r.Reports e ∧ m' = m
  passed : k.Passes m mode request segment → ∃ id payload new,
    Segment.Names segment id.number ∧ Service.payload request = .ok payload ∧
      k.Edited m now id payload m' new ∧ r = .ofChanged (k.shown m' new) ∧
      (r.status = .ok ↔ Timestamp.FourDigits [k.createdAt new, k.updatedAt new])
  only : r.status = .ok → k.Passes m mode request segment

end

end Editing

end Bulletin
