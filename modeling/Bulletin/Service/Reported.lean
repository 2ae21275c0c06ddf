import Bulletin.Service.Input
import Bulletin.Sql.Sent
import Bulletin.Store.History

namespace Bulletin

namespace FieldErrors

def toJson (errors : FieldErrors) : Json :=
  .object (errors.entries.map fun (field, messages) => (field, .sequence (messages.map .text)))

structure Substantial (errors : FieldErrors) : Prop where
  fields : errors.entries ≠ []
  messages : ∀ entry ∈ errors.entries, entry.2 ≠ []

end FieldErrors

namespace Response

def internalFault : Response :=
  .json .internalError (utf8 "\x7b\"status\":500,\"message\":\"Internal Server Error\"\x7d")

/-- The response is an object that repeats the status, with a message, and with the fields that
offend if the error is about fields. -/
structure Reports (r : Response) (e : ServiceError) : Prop where
  status : r.status = e.status
  contentType : r.contentType = some "application/json"
  body : ∃ members, Json.readObject r.body = .ok members ∧
    members.get? "status" = some (.number (.natural r.status.code.toUInt64)) ∧
    members.get? "message" = some (.text e.publicMessage) ∧
    members.get? "fields" = e.fields?.map FieldErrors.toJson
  fields : ∀ errors ∈ e.fields?, errors.Substantial

def ofCreated : Option Bytes → Response
  | some body => .json .created body
  | none => .internalFault

end Response

def Post.shownBy (post : Post) (author : User) : Option Bytes :=
  (PostView.render post (some author)).toOption.bind PostView.write?

def History.ofRecord (record : List ((c : Call) × c.Reply)) : History :=
  record.map fun asked => ⟨asked.1, asked.2⟩

namespace Service

section Store

variable {σ : Type} (step : (c : Call) → σ → c.Reply × σ) (s : σ) (request : Request)

def outcome : Except ServiceError Response := ((handle request).run.run step s).1

def history : History := .ofRecord ((handle request).run.record step s)

/-- The response tells of an error if there is one, and of a creation if the store has replied with
what it created, and that can be shown. -/
structure Accountable (r : Response) : Prop where
  error : 400 ≤ r.status.code → r.status ≠ .methodNotAllowed →
    ∃ e, outcome step s request = .error e ∧ r.Reports e
  fault : r.status = .internalError → r = .internalFault
  created : r.status = .created →
    (request.action? = some (.users, .create) ∧
      ∃ user ∈ (history step s request).createdUsers, user.write? = some r.body) ∨
    (request.action? = some (.posts, .create) ∧
      ∃ post ∈ (history step s request).createdPosts, ∃ author, post.shownBy author = some r.body)
  ofUser : ∀ user ∈ (history step s request).createdUsers, r = .ofCreated user.write?
  ofPost : ∀ post ∈ (history step s request).createdPosts, ∃ id author,
    ⟨.fetchUser id, .ok (some author)⟩ ∈ history step s request ∧
      r = .ofCreated (post.shownBy author)

end Store

end Service

namespace Sql.Client

variable {σ : Type}

def answering (reply : (s : Statement) → σ → s.Reply × σ) (c : Call) (state : σ) : c.Reply × σ :=
  (perform c).run.run reply state

end Sql.Client

end Bulletin
