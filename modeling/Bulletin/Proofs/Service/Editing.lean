import Bulletin.Proofs.Service.Changed
import Bulletin.Proofs.Service.Unchanged
import Bulletin.Service.Staged

namespace Bulletin

variable {α : Type} {entity : Entity} {now : Timestamp} {m m' : Memory} {request : Request}
variable {segment : String} {mode : Intent} {payload : Json.Members}

namespace Memory

theorem answer_of_serve {method : String} {route : Route}
    {outcome : Except ServiceError Response} (hmethod : request.method = method)
    (hroute : Route.ofPath? request.uri.path = some route)
    (hserve : (Service.serve request route (Verb.ofMethod? method)).on now m = (outcome, m')) :
    m.answer now request = (Service.trimmed request (Service.ofOutcome outcome), m') := by
  rw [answer_eq, Service.handle, hroute, hmethod]
  dsimp only
  rw [hserve]

theorem trimmed_eq (hmethod : request.method ≠ "HEAD") (r : Response) :
    Service.trimmed request r = r := if_neg hmethod

theorem on_withId {id : Id entity} {handler : Id entity → Handler α}
    (h : Service.idOfSegment segment = .ok id) :
    (Service.withId segment handler).on now m = (handler id).on now m := by
  rw [Service.withId_of_ok h]

theorem status_of_serve {method : String} {route : Route} {e : ServiceError}
    (hmethod : request.method = method) (hroute : Route.ofPath? request.uri.path = some route)
    (hserve : (Service.serve request route (Verb.ofMethod? method)).on now m = (.error e, m)) :
    (m.answer now request).1.status = e.status := by
  rw [answer_of_serve hmethod hroute hserve, status_trimmed]
  rfl

end Memory

namespace Editing

/-- How requests for one user, or for one post, are served. -/
structure Handlers (k : Editing entity α) where
  get : Id entity → Handler Response
  update : Intent → Id entity → Json.Members → Handler Response
  delete : Id entity → Handler Response
  without : Memory → Id entity → Memory
  serve_get : ∀ request segment, Service.serve request (k.route segment) (some .get) =
    Service.withId segment get
  serve_put : ∀ request segment, Service.serve request (k.route segment) (some .put) =
    Service.withId segment fun id => Service.withPayload request (update .replace id)
  serve_patch : ∀ request segment, Service.serve request (k.route segment) (some .patch) =
    Service.withId segment fun id => Service.withPayload request (update .patch id)
  serve_delete : ∀ request segment, Service.serve request (k.route segment) (some .delete) =
    Service.withId segment delete
  missing_status : ∀ id, (k.missing id).status = .notFound
  get_missing : ∀ {now m id}, (k.table m).get? id = none →
    (get id).on now m = (.error (k.missing id), m)
  update_missing : ∀ {now m id}, (k.table m).get? id = none → ∀ mode payload,
    (update mode id payload).on now m = (.error (k.missing id), m)
  delete_missing : ∀ {now m id}, (k.table m).get? id = none →
    (delete id).on now m = (.error (k.missing id), m)
  delete_found : ∀ {now m id a}, (k.table m).get? id = some a →
    (delete id).on now m = (.ok { status := .noContent }, without m id)

namespace Handlers

def users : Handlers Editing.users where
  get := Handler.getUser
  update := Handler.updateUser
  delete := Handler.deleteUser
  without m id := ⟨m.users.erase id, m.posts.filter (·.author ≠ id)⟩
  serve_get _ _ := rfl
  serve_put _ _ := rfl
  serve_patch _ _ := rfl
  serve_delete _ _ := rfl
  missing_status _ := rfl
  get_missing := Handler.on_getUser_missing
  update_missing := Handler.on_updateUser_missing
  delete_missing := Handler.on_deleteUser_missing
  delete_found := Handler.on_deleteUser

def posts : Handlers Editing.posts where
  get := Handler.getPost
  update := Handler.updatePost
  delete := Handler.deletePost
  without m id := { m with posts := m.posts.erase id }
  serve_get _ _ := rfl
  serve_put _ _ := rfl
  serve_patch _ _ := rfl
  serve_delete _ _ := rfl
  missing_status _ := rfl
  get_missing := Handler.on_getPost_missing
  update_missing := Handler.on_updatePost_missing
  delete_missing := Handler.on_deletePost_missing
  delete_found := Handler.on_deletePost

variable {k : Editing entity α} (x : k.Handlers) {id : Id entity}

theorem serve_update (hs : Service.Serves request.method mode) (segment : String) :
    Service.serve request (k.route segment) (Verb.ofMethod? request.method) =
      Service.withId segment fun id => Service.withPayload request (x.update mode id) := by
  obtain ⟨hmethod, rfl⟩ | ⟨hmethod, rfl⟩ := hs <;> rw [hmethod]
  · exact x.serve_put request segment
  · exact x.serve_patch request segment

theorem answer_update (hs : Service.Serves request.method mode)
    (hlead : request.LeadsTo k.route id) (hpayload : Service.payload request = .ok payload)
    (m : Memory) (now : Timestamp) : m.answer now request =
      (Service.ofOutcome ((x.update mode id payload).on now m).1,
        ((x.update mode id payload).on now m).2) := by
  obtain ⟨segment, hroute, hid⟩ := hlead
  have hserve := x.serve_update hs segment
  rw [Service.withId_of_ok hid, Service.withPayload_of_ok hpayload] at hserve
  have hhead : request.method ≠ "HEAD" := by
    obtain ⟨hmethod, -⟩ | ⟨hmethod, -⟩ := hs <;> rw [hmethod] <;> decide
  rw [Memory.answer_of_serve rfl hroute (by rw [hserve]), Memory.trimmed_eq hhead]

theorem answer_of_on {r : Response} (hs : Service.Serves request.method mode)
    (hlead : request.LeadsTo k.route id) (hpayload : Service.payload request = .ok payload)
    (hon : (x.update mode id payload).on now m = (.ok r, m')) : m.answer now request = (r, m') := by
  rw [x.answer_update hs hlead hpayload, hon]
  rfl

section Missing

variable (hget : (k.table m).get? id = none)
include x hget

theorem asked (hmethod : request.method ∈ ["GET", "HEAD", "DELETE"])
    (hlead : request.LeadsTo k.route id) : (m.answer now request).1.status = .notFound := by
  obtain ⟨segment, hroute, hid⟩ := hlead
  have hon : (Service.withId segment x.get).on now m = (.error (k.missing id), m) :=
    (Memory.on_withId hid).trans (x.get_missing hget)
  rw [← x.serve_get request] at hon
  simp only [List.mem_cons, List.not_mem_nil, or_false] at hmethod
  rw [← x.missing_status id]
  rcases hmethod with h | h | h
  · exact Memory.status_of_serve h hroute hon
  · exact Memory.status_of_serve h hroute hon
  · apply Memory.status_of_serve h hroute
    change (Service.serve request (k.route segment) (some .delete)).on now m = _
    rw [x.serve_delete]
    exact (Memory.on_withId hid).trans (x.delete_missing hget)

theorem changed (hmethod : request.method ∈ ["PUT", "PATCH"])
    (hlead : request.LeadsTo k.route id) (hpayload : Service.payload request = .ok payload) :
    (m.answer now request).1.status = .notFound := by
  obtain ⟨mode, hs⟩ := Service.exists_serves (by simpa using hmethod)
  rw [x.answer_update hs hlead hpayload, x.update_missing hget]
  exact x.missing_status id

end Missing

theorem deleted (hmethod : request.method = "DELETE")
    (hstatus : (m.answer now request).1.status = .noContent) (hlead : request.LeadsTo k.route id) :
    (k.table m).contains id ∧ (m.answer now request).2 = x.without m id := by
  cases hget : (k.table m).get? id with
  | none =>
    rw [x.asked hget (by simp [hmethod]) hlead] at hstatus
    cases hstatus
  | some a =>
    obtain ⟨segment, hroute, hid⟩ := hlead
    have hon : (Service.withId segment x.delete).on now m = (.ok _, _) :=
      (Memory.on_withId hid).trans (x.delete_found hget)
    rw [← x.serve_delete request] at hon
    rw [Memory.answer_of_serve hmethod hroute hon]
    exact ⟨Option.isSome_iff_exists.2 ⟨a, hget⟩, rfl⟩

end Handlers

end Editing

end Bulletin
