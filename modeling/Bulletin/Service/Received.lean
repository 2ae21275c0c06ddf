import Bulletin.Service.Reported
import Bulletin.Sql.Received

namespace Bulletin.Sql.Client

section

variable {σ : Type} (reply : (s : Statement) → σ → s.Reply × σ) (state : σ)

structure ListsWhole : Prop where
  users : ∀ rows, (reply .listUsers state).1 = .ok rows →
    AllOrNothing UserRow.null? UserRow.refused? UserRow.Carries rows
      (answering reply .listUsers state).1
  posts : ∀ rows, (reply .listPosts state).1 = .ok rows →
    AllOrNothing PostRow.null? (fun _ => none) PostRow.Carries rows
      (answering reply .listPosts state).1
  userPosts : ∀ (id : UserId) more later rows,
    reply (.userExists id.toRow) state = (.ok (some true :: more), later) →
    (reply (.listUserPosts id.toRow) later).1 = .ok rows →
    ∃ result, AllOrNothing PostRow.null? (fun _ => none) PostRow.Carries rows result ∧
      (answering reply (.fetchUserPosts id) state).1 = some <$> result
  shown : ∀ request : Request, request.method = "GET" → request.uri.path = "/users" →
    ∀ users : List User, (answering reply .listUsers state).1 = .ok users →
    (∀ user ∈ users, Timestamp.FourDigits [user.createdAt, user.updatedAt]) →
    ∃ body, writeList? User.write? users = some body ∧
      outcome reply state (Service.respond request) = .json .ok body
  withheld : ∀ request : Request, request.method = "GET" → request.uri.path = "/users" →
    (∀ users : List User, (answering reply .listUsers state).1 = .ok users →
      ∃ user ∈ users, ¬ Timestamp.FourDigits [user.createdAt, user.updatedAt]) →
    outcome reply state (Service.respond request) = .internalFault

end

end Bulletin.Sql.Client
