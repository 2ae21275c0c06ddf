import Bulletin.Service.Reported
import Bulletin.Sql.Database

namespace Bulletin

def StoreError.IsConflict : StoreError → Prop
  | .emailTaken _ | .unknownAuthor _ => True
  | .data _ | .database _ => False

def Call.isPlain : Call → Bool
  | .createUser _ | .updateUser .. | .createPost _ | .updatePost .. => false
  | .listUsers | .fetchUser _ | .deleteUser _ => true
  | .listPosts | .fetchPost _ | .fetchUserPosts _ => true
  | .deletePost _ => true

structure Response.Blames (r : Response) (field message : String) : Prop where
  status : r.status = .badRequest
  fields : ∃ members, Json.readObject r.body = .ok members ∧
    members.get? "fields" = some (.object [(field, .sequence [.text message])])

namespace Sql

/-- What a call comes to if the statement by which it writes would break the constraint: a conflict
over the email or the author that it brings along. -/
inductive Conflict : Call → Statement → Constraint → StoreError → Prop
  | createUser (new : NewUser) : Conflict (.createUser new)
      (.insertUser new.email.text new.firstName new.lastName new.isActive)
      .email (.emailTaken new.email)
  | updateUser (id : UserId) {changes : UserChanges} {email : Email} :
      changes.email = some email → Conflict (.updateUser id changes)
        (.updateUser id.toRow (some email.text) changes.firstName changes.lastName changes.isActive)
        .email (.emailTaken email)
  | createPost (new : NewPost) : Conflict (.createPost new)
      (.insertPost new.title new.content new.author.toRow new.published)
      .author (.unknownAuthor new.author)
  | updatePost (id : PostId) {changes : PostChanges} {author : UserId} :
      changes.author = some author → Conflict (.updatePost id changes)
        (.updatePost id.toRow changes.title changes.content (some author.toRow) changes.published)
        .author (.unknownAuthor author)

def Unrelated (s : Statement) (r : Refusal) : Prop :=
  ∀ c k e, Conflict c s k e → r.constraint ≠ some k.name

namespace Client

variable {σ : Type} (reply : (s : Statement) → σ → s.Reply × σ) (state : σ)

/-- The call comes to a conflict if the database refuses its write for that conflict, and only then.
What else the database refuses is an error of the database. -/
structure NamesConflicts (c : Call) : Prop where
  conflict : ∀ e : StoreError, e.IsConflict → ((answering reply c state).1 = .error e ↔
    ∃ s k r, Conflict c s k e ∧ ⟨s, .error r⟩ ∈ sentFor reply state c ∧ r.constraint = some k.name)
  fault : ∀ s r, ⟨s, .error r⟩ ∈ sentFor reply state c → Unrelated s r →
    (answering reply c state).1 = .error (.database (.refused r))
  never : c.isPlain → ∀ e : StoreError, e.IsConflict → (answering reply c state).1 ≠ .error e

/-- The client is told of a conflict as a fault in the one field that is in conflict, and of any
other refusal that it is no fault of the client. -/
structure TellsConflicts (request : Request) : Prop where
  email : ∀ c s email r, Conflict c s .email (.emailTaken email) →
    ⟨s, .error r⟩ ∈ sent reply state (Service.respond request) →
    r.constraint = some Constraint.email.name →
    (outcome reply state (Service.respond request)).Blames "email"
      "user with this email already exists."
  author : ∀ c s author r, Conflict c s .author (.unknownAuthor author) →
    ⟨s, .error r⟩ ∈ sent reply state (Service.respond request) →
    r.constraint = some Constraint.author.name →
    (outcome reply state (Service.respond request)).Blames "author"
      ("Invalid pk \"" ++ toString author ++ "\" - object does not exist.")
  fault : ∀ s r, ⟨s, .error r⟩ ∈ sent reply state (Service.respond request) → Unrelated s r →
    outcome reply state (Service.respond request) = .internalFault

end Client

end Sql

end Bulletin
