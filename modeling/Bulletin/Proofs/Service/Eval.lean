import Bulletin.Proofs.Dialogue
import Bulletin.Proofs.Store.Sound
import Bulletin.Service.Input
import Bulletin.Service.Session

namespace Bulletin.Handler

variable {α β : Type} {now : Timestamp} {m m' : Memory}

def on (h : Handler α) (now : Timestamp) (m : Memory) : Except ServiceError α × Memory :=
  Dialogue.attempt (Memory.exec now) h m

@[simp] theorem on_pure (a : α) : (pure a : Handler α).on now m = (.ok a, m) := rfl

theorem on_bind (h : Handler α) (f : α → Handler β) : (h >>= f).on now m =
    match h.on now m with
    | (.ok a, m') => (f a).on now m'
    | (.error e, m') => (.error e, m') := by
  unfold on
  rw [Dialogue.attempt_bind]
  cases Dialogue.attempt (Memory.exec now) h m with
  | mk outcome m' => cases outcome <;> rfl

theorem on_bind_ok {h : Handler α} {f : α → Handler β} {a : α} (hon : h.on now m = (.ok a, m')) :
    (h >>= f).on now m = (f a).on now m' := by
  rw [on_bind, hon]

theorem on_call (c : Call) :
    (call c).on now m = ((m.exec now c).1.mapError .ofStore, (m.exec now c).2) := rfl

theorem on_call_ok {c : Call} {result : c.Result} (h : m.exec now c = (.ok result, m')) :
    (call c).on now m = (.ok result, m') := by
  rw [on_call, h]
  rfl

@[simp] theorem on_fetchUser (id : UserId) :
    (fetchUser id).on now m = (.ok (m.users.get? id), m) := rfl

@[simp] theorem on_fetchPost (id : PostId) :
    (fetchPost id).on now m = (.ok (m.posts.get? id), m) := rfl

@[simp] theorem on_parse (form : Form α) (mode : Intent) (payload : Json.Members) :
    (parse form mode payload).on now m = ((form.parse mode payload).mapError .validation, m) := rfl

theorem on_parse_ok {form : Form α} {mode : Intent} {payload : Json.Members} {a : α}
    (h : (parse form mode payload).on now m = (.ok a, m')) :
    form.parse mode payload = .ok a ∧ m = m' := by
  rw [on_parse] at h
  cases hparse : form.parse mode payload with
  | error errors =>
    rw [hparse] at h
    cases h
  | ok b =>
    rw [hparse] at h
    cases h
    exact ⟨rfl, rfl⟩

theorem on_resolveAuthor_ok {id : UserId} {author : User}
    (h : (resolveAuthor id).on now m = (.ok author, m')) :
    m.users.get? id = some author ∧ m = m' := by
  rw [resolveAuthor, on_bind, on_fetchUser] at h
  cases hget : m.users.get? id with
  | none =>
    rw [hget] at h
    cases h
  | some user =>
    rw [hget] at h
    cases h
    exact ⟨rfl, rfl⟩

@[simp] theorem on_view (post : Post) (author : Option User) :
    (view post author).on now m = ((PostView.render post author).mapError .orphan, m) := rfl

@[simp] theorem on_discard (h : Handler α) :
    (discard h).on now m = match h.on now m with
      | (.ok _, m') => (.ok (), m')
      | (.error e, m') => (.error e, m') := by
  change (h >>= fun _ => pure ()).on now m = _
  rw [on_bind]
  rfl

/-- The reply of a deletion. -/
def removed (missing : ServiceError) (deleted : Bool) : Handler Response :=
  if deleted then return { status := .noContent } else throw missing

section Missing

variable {id : UserId} (h : m.users.get? id = none)
include h

theorem on_getUser_missing : (getUser id).on now m = (.error (.userNotFound id), m) := by
  rw [getUser, on_bind_ok (on_fetchUser id), h]
  rfl

theorem on_updateUser_missing (mode : Intent) (payload : Json.Members) :
    (updateUser mode id payload).on now m = (.error (.userNotFound id), m) := by
  rw [updateUser, on_bind_ok (on_fetchUser id), h]
  rfl

theorem on_deleteUser_missing : (deleteUser id).on now m = (.error (.userNotFound id), m) := by
  have hexec : m.exec now (.deleteUser id) = (.ok false, m) := by
    simp [Memory.exec, Memory.deleteUser, Table.contains, h]
  exact on_bind_ok (on_call_ok hexec)

theorem on_listUserPosts_missing :
    (listUserPosts id).on now m = (.error (.userNotFound id), m) := by
  have hexec : m.exec now (.fetchUserPosts id) = (.ok none, m) := by
    simp [Memory.exec, Memory.userPosts, Table.contains, h]
  exact on_bind_ok (on_call_ok hexec)

end Missing

section Missing

variable {id : PostId} (h : m.posts.get? id = none)
include h

theorem on_getPost_missing : (getPost id).on now m = (.error (.postNotFound id), m) := by
  rw [getPost, on_bind_ok (on_fetchPost id), h]
  rfl

theorem on_updatePost_missing (mode : Intent) (payload : Json.Members) :
    (updatePost mode id payload).on now m = (.error (.postNotFound id), m) := by
  rw [updatePost, on_bind_ok (on_fetchPost id), h]
  rfl

theorem on_deletePost_missing : (deletePost id).on now m = (.error (.postNotFound id), m) := by
  have hexec : m.exec now (.deletePost id) = (.ok false, m) := by
    have hnot : m.posts.contains id = false := by rw [Table.contains, h]; rfl
    simp [Memory.exec, Memory.deletePost, hnot, Table.erase_of_not_contains hnot]
  exact on_bind_ok (on_call_ok hexec)

end Missing

theorem on_deleteUser {id : UserId} {user : User} (h : m.users.get? id = some user) :
    (deleteUser id).on now m = (.ok { status := .noContent },
      ⟨m.users.erase id, m.posts.filter (·.author ≠ id)⟩) := by
  have hexec : m.exec now (.deleteUser id) =
      (.ok true, ⟨m.users.erase id, m.posts.filter (·.author ≠ id)⟩) := by
    simp [Memory.exec, Memory.deleteUser, Table.contains, h]
  exact on_bind_ok (on_call_ok hexec)

theorem on_deletePost {id : PostId} {post : Post} (h : m.posts.get? id = some post) :
    (deletePost id).on now m = (.ok { status := .noContent },
      { m with posts := m.posts.erase id }) := by
  have hexec : m.exec now (.deletePost id) = (.ok true, { m with posts := m.posts.erase id }) := by
    simp [Memory.exec, Memory.deletePost, Table.contains, h]
  exact on_bind_ok (on_call_ok hexec)

theorem ok_of_bind {h : Handler α} {f : α → Handler β} {b : β}
    (hon : (h >>= f).on now m = (.ok b, m')) :
    ∃ a middle, h.on now m = (.ok a, middle) ∧ (f a).on now middle = (.ok b, m') := by
  rw [on_bind] at hon
  split at hon
  · exact ⟨_, _, ‹_›, hon⟩
  · cases hon

theorem ok_of_discard {h : Handler α} {f : Unit → Handler β} {b : β}
    (hon : (discard h >>= f).on now m = (.ok b, m')) :
    ∃ a middle, h.on now m = (.ok a, middle) ∧ (f ()).on now middle = (.ok b, m') := by
  obtain ⟨_, middle, hdiscard, hrest⟩ := ok_of_bind hon
  rw [on_discard] at hdiscard
  split at hdiscard
  · cases hdiscard
    exact ⟨_, _, ‹_›, hrest⟩
  · cases hdiscard

theorem ok_of_found {e : ServiceError} {a? : Option α} {a : α}
    (hon : (found e a?).on now m = (.ok a, m')) : a? = some a ∧ m = m' := by
  cases a? <;> cases hon
  exact ⟨rfl, rfl⟩

theorem ok_of_call {c : Call} {result : c.Result} (hon : (call c).on now m = (.ok result, m')) :
    m.exec now c = (.ok result, m') := by
  rw [on_call] at hon
  generalize m.exec now c = answer at hon ⊢
  obtain ⟨reply, left⟩ := answer
  cases reply <;> cases hon
  rfl

theorem ok_of_respond {status : Status} {body? : Option Bytes} {r : Response}
    (hon : (respond status body?).on now m = (.ok r, m')) :
    ∃ body, body? = some body ∧ r = .json status body ∧ m = m' := by
  cases body? <;> cases hon
  exact ⟨_, rfl, rfl, rfl⟩

theorem ok_of_view {post : Post} {author : Option User} {shown : PostView}
    (hon : (view post author).on now m = (.ok shown, m')) :
    PostView.render post author = .ok shown ∧ m = m' := by
  rw [on_view] at hon
  generalize PostView.render post author = rendered at hon ⊢
  cases rendered <;> cases hon
  exact ⟨rfl, rfl⟩

theorem ok_of_viewPost {post : Post} {shown : PostView}
    (hon : (viewPost post).on now m = (.ok shown, m')) :
    PostView.render post (m.users.get? post.author) = .ok shown ∧ m = m' := by
  obtain ⟨author, middle, hfetch, hview⟩ := ok_of_bind hon
  cases hfetch
  exact ok_of_view hview

def Asks (P : Call → Memory → Prop) (now : Timestamp) (m : Memory) (h : Handler α) : Prop :=
  h.run.Along (Memory.exec now) P m

section Asks

variable {P Q : Call → Memory → Prop}

theorem asks_pure (a : α) : Asks P now m (pure a) := trivial

theorem asks_throw (e : ServiceError) : Asks P now m (throw e : Handler α) := trivial

theorem asks_call {c : Call} (h : P c m) : Asks P now m (call c) := ⟨h, trivial⟩

theorem asks_parse (form : Form α) (mode : Intent) (payload : Json.Members) :
    Asks P now m (parse form mode payload) := trivial

theorem asks_view (post : Post) (author : Option User) : Asks P now m (view post author) := trivial

theorem asks_found (e : ServiceError) (a : Option α) : Asks P now m (found e a) := by
  cases a <;> trivial

theorem asks_respond (status : Status) (body : Option Bytes) :
    Asks P now m (respond status body) := by
  cases body <;> trivial

theorem asks_removed (missing : ServiceError) (deleted : Bool) :
    Asks P now m (removed missing deleted) := by
  cases deleted <;> trivial

theorem Asks.bind {h : Handler α} {f : α → Handler β} (hh : Asks P now m h)
    (hf : ∀ a m', h.on now m = (.ok a, m') → Asks P now m' (f a)) : Asks P now m (h >>= f) := by
  apply Dialogue.Along.bind hh
  change Dialogue.Along _ _ (ExceptT.bindCont f (h.on now m).1) (h.on now m).2
  cases hon : h.on now m with
  | mk outcome m' =>
    cases outcome with
    | ok a => exact hf a m' hon
    | error e => trivial

end Asks

end Handler

def Call.Reads : Call → Prop
  | .listUsers | .fetchUser _ | .listPosts | .fetchPost _ | .fetchUserPosts _ => True
  | _ => False

namespace Handler

def ReadOnly (h : Handler α) : Prop := ∀ now m, Asks (fun c _ => c.Reads) now m h

theorem ReadOnly.on_snd {h : Handler α} (hh : ReadOnly h) (now : Timestamp) (m : Memory) :
    (h.on now m).2 = m := by
  apply Dialogue.Along.run_eq _ (hh now m)
  intro c m hc
  cases c with
  | listUsers | fetchUser | listPosts | fetchPost | fetchUserPosts => rfl
  | _ => cases hc

theorem ReadOnly.bind {h : Handler α} {f : α → Handler β} (hh : ReadOnly h)
    (hf : ∀ a, ReadOnly (f a)) : ReadOnly (h >>= f) :=
  fun now m => (hh now m).bind fun a m' _ => hf a now m'

theorem readOnly_discard {h : Handler α} (hh : ReadOnly h) : ReadOnly (discard h) :=
  hh.bind fun _ _ _ => asks_pure ()

theorem readOnly_respond (status : Status) (body : Option Bytes) :
    ReadOnly (respond status body) := fun _ _ => asks_respond status body

theorem readOnly_call {c : Call} (h : c.Reads) : ReadOnly (call c) := fun _ _ => asks_call h

theorem readOnly_fetchUser (id : UserId) : ReadOnly (fetchUser id) :=
  readOnly_call (c := .fetchUser id) trivial

theorem readOnly_viewPost (post : Post) : ReadOnly (viewPost post) :=
  (readOnly_fetchUser post.author).bind fun _ _ _ => asks_view _ _

theorem readOnly_resolveAuthor (author : UserId) : ReadOnly (resolveAuthor author) :=
  (readOnly_fetchUser author).bind fun _ _ _ => asks_found _ _

theorem readOnly_learn (known : Known) (author : UserId) : ReadOnly (learn known author) := by
  unfold learn
  split
  · exact fun _ _ => asks_pure _
  · exact (readOnly_fetchUser author).bind fun _ _ _ => asks_pure _

theorem readOnly_viewPosts (known : Known) (posts : List Post) :
    ReadOnly (viewPosts known posts) := by
  induction posts generalizing known with
  | nil => exact fun _ _ => asks_pure _
  | cons post posts ih =>
    apply (readOnly_learn known post.author).bind
    intro known
    apply ReadOnly.bind (fun _ _ => asks_view _ _)
    intro shown
    exact (ih known).bind fun _ _ _ => asks_pure _

theorem readOnly_listUsers : ReadOnly listUsers := by
  apply (readOnly_call (c := .listUsers) trivial).bind
  intro users
  exact readOnly_respond _ _

theorem readOnly_getUser (id : UserId) : ReadOnly (getUser id) := by
  apply (readOnly_fetchUser id).bind
  intro user
  exact ReadOnly.bind (fun _ _ => asks_found _ _) fun _ => readOnly_respond _ _

theorem readOnly_listUserPosts (id : UserId) : ReadOnly (listUserPosts id) := by
  apply (readOnly_call (c := .fetchUserPosts id) trivial).bind
  intro posts
  apply ReadOnly.bind (fun _ _ => asks_found _ _)
  intro posts
  exact (readOnly_viewPosts _ _).bind fun _ => readOnly_respond _ _

theorem readOnly_listPosts : ReadOnly listPosts := by
  apply (readOnly_call (c := .listPosts) trivial).bind
  intro posts
  exact (readOnly_viewPosts _ _).bind fun _ => readOnly_respond _ _

theorem readOnly_getPost (id : PostId) : ReadOnly (getPost id) := by
  apply (readOnly_call (c := .fetchPost id) trivial).bind
  intro post
  apply ReadOnly.bind (fun _ _ => asks_found _ _)
  intro post
  exact (readOnly_viewPost post).bind fun _ => readOnly_respond _ _

/-- What holds of each handler for the action that it serves, and where a request comes to none. -/
structure EachFor (P : Option (Resource × Action) → Handler Response → Prop) : Prop where
  listUsers : P (some (.users, .list)) listUsers
  createUser : ∀ payload, P (some (.users, .create)) (createUser payload)
  getUser : ∀ id, P (some (.users, .retrieve)) (getUser id)
  updateUser : ∀ mode id payload, P (some (.users, mode.action)) (updateUser mode id payload)
  deleteUser : ∀ id, P (some (.users, .destroy)) (deleteUser id)
  listUserPosts : ∀ id, P (some (.users, .userPosts)) (listUserPosts id)
  listPosts : P (some (.posts, .list)) listPosts
  createPost : ∀ payload, P (some (.posts, .create)) (createPost payload)
  getPost : ∀ id, P (some (.posts, .retrieve)) (getPost id)
  updatePost : ∀ mode id payload, P (some (.posts, mode.action)) (updatePost mode id payload)
  deletePost : ∀ id, P (some (.posts, .destroy)) (deletePost id)
  notAllowed : ∀ action route, P action (pure (Service.notAllowed route))
  rejected : ∀ action, ∀ e : ServiceError, e.status ≠ .internalError → e.fields? = none →
    P action (throw e)

namespace EachFor

variable {P : Option (Resource × Action) → Handler Response → Prop} (hP : EachFor P)
variable {action : Option (Resource × Action)}
include hP

theorem withId {entity : Entity} {segment : String} {handler : Id entity → Handler Response}
    (h : ∀ id, P action (handler id)) : P action (Service.withId segment handler) := by
  unfold Service.withId
  split
  · exact h _
  · exact hP.rejected action _ (by simp [ServiceError.status]) rfl

theorem withPayload {request : Request} {handler : Json.Members → Handler Response}
    (h : ∀ payload, P action (handler payload)) :
    P action (Service.withPayload request handler) := by
  unfold Service.withPayload
  split
  · exact h _
  · exact hP.rejected action _ (by simp [ServiceError.status]) rfl

theorem serve (request : Request) (route : Route) (verb : Option Verb) :
    P (verb.bind route.action?) (Service.serve request route verb) := by
  unfold Service.serve
  split
  · exact hP.listUsers
  · exact hP.withPayload hP.createUser
  · exact hP.withId hP.getUser
  · exact hP.withId fun id => hP.withPayload (hP.updateUser .replace id)
  · exact hP.withId fun id => hP.withPayload (hP.updateUser .patch id)
  · exact hP.withId hP.deleteUser
  · exact hP.withId hP.listUserPosts
  · exact hP.listPosts
  · exact hP.withPayload hP.createPost
  · exact hP.withId hP.getPost
  · exact hP.withId fun id => hP.withPayload (hP.updatePost .replace id)
  · exact hP.withId fun id => hP.withPayload (hP.updatePost .patch id)
  · exact hP.withId hP.deletePost
  · exact hP.notAllowed _ _

theorem handle (request : Request) : P request.action? (Service.handle request) := by
  unfold Service.handle Request.action?
  cases Route.ofPath? request.uri.path with
  | none => exact hP.rejected none _ (by simp [ServiceError.status]) rfl
  | some route => exact hP.serve request route (Verb.ofMethod? request.method)

end EachFor

structure Each (P : Handler Response → Prop) : Prop where
  listUsers : P listUsers
  createUser : ∀ payload, P (createUser payload)
  getUser : ∀ id, P (getUser id)
  updateUser : ∀ mode id payload, P (updateUser mode id payload)
  deleteUser : ∀ id, P (deleteUser id)
  listUserPosts : ∀ id, P (listUserPosts id)
  listPosts : P listPosts
  createPost : ∀ payload, P (createPost payload)
  getPost : ∀ id, P (getPost id)
  updatePost : ∀ mode id payload, P (updatePost mode id payload)
  deletePost : ∀ id, P (deletePost id)
  notAllowed : ∀ route, P (pure (Service.notAllowed route))
  rejected : ∀ e : ServiceError, e.status ≠ .internalError → P (throw e)

namespace Each

variable {P : Handler Response → Prop} (hP : Each P)
include hP

theorem eachFor : EachFor fun _ => P where
  listUsers := hP.listUsers
  createUser := hP.createUser
  getUser := hP.getUser
  updateUser := hP.updateUser
  deleteUser := hP.deleteUser
  listUserPosts := hP.listUserPosts
  listPosts := hP.listPosts
  createPost := hP.createPost
  getPost := hP.getPost
  updatePost := hP.updatePost
  deletePost := hP.deletePost
  notAllowed _ := hP.notAllowed
  rejected _ e he _ := hP.rejected e he

theorem handle (request : Request) : P (Service.handle request) := hP.eachFor.handle request

end Each

end Bulletin.Handler
