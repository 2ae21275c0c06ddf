import Bulletin.Proofs.Service.Reported
import Bulletin.Proofs.Service.Writable
import Bulletin.Proofs.Sql.Received
import Bulletin.Service.Received

namespace Bulletin

theorem Sql.Internal.status {e : StoreError} (h : Sql.Internal e) :
    (ServiceError.ofStore e).status = .internalError := by
  obtain ⟨_, rfl⟩ | ⟨_, rfl⟩ := h <;> rfl

namespace Handler

def ofUsers (users : List User) : Except ServiceError Response :=
  match writeList? User.write? users with
  | some body => .ok (.json .ok body)
  | none => .error (.unwritable Rfc3339.unwritable)

section

variable {σ : Type} (step : (c : Call) → σ → c.Reply × σ) (s : σ)

theorem outcome_respond_users (users : List User) :
    ((respond .ok (writeList? User.write? users)).run.run step s).1 = ofUsers users := by
  rw [ofUsers]
  cases writeList? User.write? users <;> rfl

theorem outcome_listUsers :
    (listUsers.run.run step s).1 = ((step .listUsers s).1.mapError .ofStore >>= ofUsers) := by
  change (Dialogue.run step (ExceptT.bindCont (fun users : List User =>
    respond .ok (writeList? User.write? users)) ((step .listUsers s).1.mapError _)) _).1 = _
  cases (step .listUsers s).1 with
  | error e => rfl
  | ok users => exact outcome_respond_users step _ users

end

theorem ofUsers_of_write {users : List User} {body : Bytes}
    (h : writeList? User.write? users = some body) : ofUsers users = .ok (.json .ok body) := by
  rw [ofUsers, h]

theorem ofUsers_of_times {users : List User} {user : User} (huser : user ∈ users)
    (htimes : ¬ Timestamp.FourDigits [user.createdAt, user.updatedAt]) :
    Service.ofOutcome (ofUsers users) = .internalFault := by
  have hnone : writeList? User.write? users = none := by
    rw [Option.eq_none_iff_forall_ne_some]
    intro body hbody
    have hwrite := isSome_of_writeList? hbody user huser
    exact htimes (Timestamp.fourDigits_iff.2 (User.write?_isSome_iff.1 hwrite))
  rw [ofUsers, hnone]
  exact Response.ofError_internal rfl

end Handler

namespace Service

variable {σ : Type} {request : Request}

theorem handle_users (hmethod : request.method = "GET") (hpath : request.uri.path = "/users") :
    handle request = Handler.listUsers := by
  have hroute : Route.ofPath? "/users" = some .users := by decide +kernel
  have hverb : Verb.ofMethod? "GET" = some .get := by decide +kernel
  rw [handle, hpath, hroute, hmethod, hverb]
  rfl

theorem outcome_overDatabase (reply : (s : Sql.Statement) → σ → s.Reply × σ) (state : σ)
    (hmethod : request.method ≠ "HEAD") : Sql.Client.outcome reply state (respond request) =
      ofOutcome (outcome (Sql.Client.answering reply) state request) := by
  rw [Sql.Client.outcome, Sql.Client.overDatabase, Dialogue.run_expand_eq, respond,
    Dialogue.run_bind, Dialogue.run, trimmed, if_neg hmethod]
  rfl

end Service

namespace Sql.Client

variable {σ : Type} (reply : (s : Statement) → σ → s.Reply × σ) (state : σ)

theorem answering_exchange {c : Call} {s : Statement} {conflict : Refusal → Option StoreError}
    {read : s.Answer → Except StoreError c.Result} (h : perform c = exchange conflict s read) :
    (answering reply c state).1 = received conflict read (reply s state).1 := by
  rw [answering, h]
  rfl

theorem answering_exchange_bind {α : Type} {c : Call} {s : Statement}
    {conflict : Refusal → Option StoreError} {read : s.Answer → Except StoreError α}
    {next : α → Session c.Result} (h : perform c = (exchange conflict s read >>= next))
    {answer : s.Answer} {later : σ} {a : α} (hreply : reply s state = (.ok answer, later))
    (hread : read answer = .ok a) :
    (answering reply c state).1 = ((next a).run.run reply later).1 := by
  rw [answering, h]
  change (Dialogue.run reply (Dialogue.bind (.done (received conflict read (reply s state).1)) _)
    (reply s state).2).1 = _
  rw [hreply]
  change (Dialogue.run reply (ExceptT.bindCont next (read answer)) later).1 = _
  rw [hread]
  rfl

theorem answering_userPosts {id : UserId} {more : List (Option Bool)} {later : σ}
    (hexists : reply (.userExists id.toRow) state = (.ok (some true :: more), later)) :
    (answering reply (.fetchUserPosts id) state).1 =
      received (fun _ => none) (fun rows => some <$> readPosts rows)
        (reply (.listUserPosts id.toRow) later).1 :=
  answering_exchange_bind reply state (c := .fetchUserPosts id) (fetchUserPosts_eq id) hexists rfl

section Users

variable {request : Request} {reply state} (hmethod : request.method = "GET")
variable (hpath : request.uri.path = "/users")
include hmethod hpath

theorem outcome_users : outcome reply state (Service.respond request) = Service.ofOutcome
    ((answering reply .listUsers state).1.mapError .ofStore >>= Handler.ofUsers) := by
  rw [Service.outcome_overDatabase reply state (hmethod ▸ by decide), Service.outcome,
    Service.handle_users hmethod hpath, Handler.outcome_listUsers]

end Users

/-- Of the rows that are read for a list, all are carried over or none is, whatever the database
replies. -/
theorem lists_whole : ListsWhole reply state where
  users rows hrows := by
    rw [answering_exchange reply state (c := .listUsers) listUsers_eq, hrows]
    exact .of_decided (decided_readUsers rows)
  posts rows hrows := by
    rw [answering_exchange reply state (c := .listPosts) listPosts_eq, hrows]
    exact .of_nulls (decided_readPosts rows)
  userPosts id more later rows hexists hrows := by
    refine ⟨readPosts rows, .of_nulls (decided_readPosts rows), ?_⟩
    rw [answering_userPosts reply state hexists, hrows]
    rfl
  shown request hmethod hpath users husers htimes := by
    obtain ⟨body, hbody⟩ := Option.isSome_iff_exists.1 <| writeList?_isSome fun user huser =>
      User.write?_isSome_iff.2 (Timestamp.fourDigits_iff.1 (htimes user huser))
    refine ⟨body, hbody, ?_⟩
    rw [outcome_users hmethod hpath, husers]
    exact congrArg Service.ofOutcome (Handler.ofUsers_of_write hbody)
  withheld request hmethod hpath h := by
    rw [outcome_users hmethod hpath]
    cases hlist : (answering reply .listUsers state).1 with
    | error e =>
      have hsound : Sound (answering reply .listUsers state).1 := by
        rw [answering_exchange reply state (c := .listUsers) listUsers_eq]
        exact sound_received sound_readUsers _
      exact Response.ofError_internal (hsound e hlist).status
    | ok users =>
      obtain ⟨user, huser, htimes⟩ := h users hlist
      exact Handler.ofUsers_of_times huser htimes

theorem lists_whole_of_ada :
    let ada : UserRow := ⟨some 1, some "ada@example.com", some "Ada", some "King", some true,
      some 0, some 0⟩
    let refused : UserRow := { ada with email := some "nobody" }
    let broken : UserRow := { ada with firstName := none, updatedAt := none }
    let reply (rows : List UserRow) (s : Statement) (state : Unit) : s.Reply × Unit := match s with
      | .listUsers => (.ok rows, state)
      | _ => (.error ⟨"42P01", "relation does not exist", none⟩, state)
    (answering (reply [refused, ada, broken]) .listUsers ()).1 =
      .error (.database (.unexpectedNull (.named "first_name"))) ∧
    (answering (reply [ada, refused]) .listUsers ()).1 = .error (.data (.malformed "nobody")) ∧
    ∃ users, (answering (reply [ada, ada]) .listUsers ()).1 = .ok users ∧
      List.Forall₂ UserRow.Carries [ada, ada] users := by
  intro ada refused broken reply
  have hwhole := (lists_whole (reply [ada, ada]) ()).users [ada, ada] rfl
  obtain ⟨users, husers⟩ := hwhole.listed.2 (by decide +kernel)
  refine ⟨?_, ?_, users, husers, hwhole.carried users husers⟩
  · exact ((lists_whole (reply _) ()).users [refused, ada, broken] rfl).null _ (by decide +kernel)
  · exact ((lists_whole (reply _) ()).users [ada, refused] rfl).refused (by decide +kernel) _
      (by decide +kernel)

end Sql.Client

end Bulletin
