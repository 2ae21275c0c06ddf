import Bulletin.Proofs.Service.Editing
import Bulletin.Proofs.Service.Reachable
import Bulletin.Proofs.Store.Fresh
import Bulletin.Proofs.View.Given

namespace Bulletin

variable {α : Type} {now : Timestamp} {m m' : Memory} {request : Request}

open Handler

namespace Memory

theorem answer_of_get {route : Route} {o : Except ServiceError Response}
    (hmethod : request.method = "GET") (hroute : Route.ofPath? request.uri.path = some route)
    (hserve : (Service.serve request route (some .get)).on now m = (o, m)) :
    (m.answer now request).1 = Service.ofOutcome o := by
  have hhead : request.method ≠ "HEAD" := by
    rw [hmethod]
    decide
  rw [answer_of_serve hmethod hroute hserve]
  exact trimmed_eq hhead _

theorem showsUser {user : User} {body : Bytes} (hget : m.users.get? user.id = some user)
    (hwrite : user.write? = some body) : m.ShowsUser user body where
  written := hwrite
  answered now request hmethod := by
    rintro ⟨segment, hroute, hid⟩
    refine answer_of_get (o := .ok _) hmethod hroute ?_
    change (Service.withId segment getUser).on now m = _
    rw [Service.withId_of_ok hid, getUser, on_bind_ok (on_fetchUser _), hget]
    change (respond .ok user.write?).on now m = _
    rw [hwrite]
    rfl

theorem showsPost {view : PostView} {body : Bytes}
    (hget : m.posts.get? view.post.id = some view.post)
    (hrender : PostView.render view.post (m.users.get? view.post.author) = .ok view)
    (hwrite : view.write? = some body) : m.ShowsPost view body where
  written := hwrite
  answered now request hmethod := by
    rintro ⟨segment, hroute, hid⟩
    refine answer_of_get (o := .ok _) hmethod hroute ?_
    change (Service.withId segment getPost).on now m = _
    rw [Service.withId_of_ok hid, getPost, on_bind_ok (on_fetchPost _), hget]
    change (viewPost view.post >>= fun shown => respond .ok shown.write?).on now m = _
    have hview : (viewPost view.post).on now m = (.ok view, m) := by
      rw [viewPost, on_bind_ok (on_fetchUser _), on_view, hrender]
      rfl
    rw [on_bind_ok hview, hwrite]
    rfl

end Memory

section Writing

variable {n : Nat} {earlier : History} {payload : Json.Members} {r : Response}

theorem readBack_createUser (hroute : Route.ofPath? request.uri.path = some .users)
    (hfresh : Id.Fresh (earlier.createdUsers.map User.id) ⟨m.users.last + 1⟩)
    (hon : (createUser payload).on now m = (.ok r, m')) :
    ReadBack earlier m request payload m' r := by
  obtain ⟨new, _, hparse, hon⟩ := ok_of_bind hon
  obtain ⟨hnew, rfl⟩ := on_parse_ok hparse
  obtain ⟨user, _, hcall, hon⟩ := ok_of_bind hon
  obtain ⟨body, hbody, rfl, rfl⟩ := ok_of_respond hon
  cases step_of_exec (ok_of_call hcall) with
  | idle h => cases h
  | createUser =>
    have hget := m.users.get?_add fun id => new.toUser id now
    obtain ⟨hgiven, hcomplete⟩ := given_newUser hnew ⟨m.users.last + 1⟩ now
    exact .newUser hroute (Memory.showsUser hget hbody) hgiven hcomplete rfl hfresh

theorem readBack_createPost (hroute : Route.ofPath? request.uri.path = some .posts)
    (hfresh : Id.Fresh (earlier.createdPosts.map Post.id) ⟨m.posts.last + 1⟩)
    (hon : (createPost payload).on now m = (.ok r, m')) :
    ReadBack earlier m request payload m' r := by
  obtain ⟨new, _, hparse, hon⟩ := ok_of_bind hon
  obtain ⟨hnew, rfl⟩ := on_parse_ok hparse
  obtain ⟨author, _, hresolve, hon⟩ := ok_of_bind hon
  obtain ⟨hauthor, rfl⟩ := on_resolveAuthor_ok hresolve
  obtain ⟨post, _, hcall, hon⟩ := ok_of_bind hon
  obtain ⟨view, _, hview, hon⟩ := ok_of_bind hon
  obtain ⟨hrender, rfl⟩ := ok_of_view hview
  obtain ⟨body, hbody, rfl, rfl⟩ := ok_of_respond hon
  cases step_of_exec (ok_of_call hcall) with
  | idle h => cases h
  | createPost =>
    have hget := m.posts.get?_add fun id => new.toPost id now
    obtain ⟨hgiven, hcomplete⟩ := given_newPost hnew ⟨m.posts.last + 1⟩ now
    have hpost := post_of_render hrender
    -- The author was looked up before the post was there, but a new post leaves the users alone.
    rw [← hauthor] at hrender
    refine .newPost hroute (Memory.showsPost ?_ ?_ hbody) ?_ ?_ ?_ ?_
    · rw [hpost]; exact hget
    · rw [hpost]; exact hrender
    · rw [hpost]; exact hgiven
    · rw [hpost]; exact hcomplete
    · rw [hpost]; rfl
    · rw [hpost]; exact hfresh

theorem readBack_updateUser {mode : Intent} {id : UserId} (hm : m.Linked) (hw : m.Writable n)
    (hid : request.LeadsTo .user id)
    (hon : (updateUser mode id payload).on now m = (.ok r, m')) :
    ReadBack earlier m request payload m' r := by
  obtain ⟨old, changes, body, rfl, htakes, hbody, rfl, rfl⟩ := ok_of_updateUser hm hon
  have hmem := (hm.users.get?_eq_some_iff.1 htakes.found).1
  obtain ⟨oldBody, holdBody⟩ := Option.isSome_iff_exists.1 (hw.user hmem)
  obtain ⟨hgiven, hkept⟩ := given_userChanges htakes.parsed now old
  have hfound : (m.withUser (changes.revise now old)).users.get? old.id =
      some (changes.revise now old) := Table.get?_replace htakes.found _
  exact .changedUser hid (Memory.showsUser htakes.found holdBody)
    (Memory.showsUser hfound hbody) hgiven hkept

theorem readBack_updatePost {mode : Intent} {id : PostId} (hm : m.Linked) (hw : m.Writable n)
    (hid : request.LeadsTo .post id)
    (hon : (updatePost mode id payload).on now m = (.ok r, m')) :
    ReadBack earlier m request payload m' r := by
  obtain ⟨old, changes, body, rfl, htakes, hbody, rfl, rfl⟩ := ok_of_updatePost hm hon
  have hmem := (hm.posts.get?_eq_some_iff.1 htakes.found).1
  obtain ⟨oldBody, holdBody⟩ :=
    Option.isSome_iff_exists.1 (hw.post hmem (m.shown old).authorName)
  have hauthor : m.users.contains (changes.revise now old).author := htakes.author hm
  obtain ⟨hgiven, hkept⟩ := given_postChanges htakes.parsed now old
  have hfound : (m.withPost (changes.revise now old)).posts.get? old.id =
      some (changes.revise now old) := Table.get?_replace htakes.found _
  exact .changedPost hid
    (Memory.showsPost htakes.found (render_eq hm (hm.authors old hmem)) holdBody)
    (Memory.showsPost hfound (render_eq (htakes.linked hm) hauthor) hbody) hgiven hkept

end Writing

section Requests

variable {n : Nat} {earlier : History} {r : Response}

theorem ok_of_withId {entity : Entity} {segment : String} {handler : Id entity → Handler Response}
    (hon : (Service.withId segment handler).on now m = (.ok r, m')) :
    ∃ id, Service.idOfSegment segment = .ok id ∧ (handler id).on now m = (.ok r, m') := by
  unfold Service.withId at hon
  split at hon
  · exact ⟨_, ‹_›, hon⟩
  · cases hon

theorem ok_of_withPayload {handler : Json.Members → Handler Response}
    (hon : (Service.withPayload request handler).on now m = (.ok r, m')) :
    ∃ payload, Service.payload request = .ok payload ∧
      (handler payload).on now m = (.ok r, m') := by
  unfold Service.withPayload at hon
  split at hon
  · exact ⟨_, ‹_›, hon⟩
  · cases hon

theorem verb_of_write (hmethod : request.method ∈ ["POST", "PUT", "PATCH"]) :
    Verb.ofMethod? request.method ∈ [some .post, some .put, some .patch] := by
  simp only [List.mem_cons, List.not_mem_nil, or_false] at hmethod
  rcases hmethod with h | h | h <;> rw [h] <;> decide

theorem readBack_serve {route : Route} {verb : Option Verb} (hm : m.Linked) (hw : m.Writable n)
    (hroute : Route.ofPath? request.uri.path = some route)
    (hverb : verb ∈ [some Verb.post, some .put, some .patch])
    (husers : Id.Fresh (earlier.createdUsers.map User.id) ⟨m.users.last + 1⟩)
    (hposts : Id.Fresh (earlier.createdPosts.map Post.id) ⟨m.posts.last + 1⟩)
    (hon : (Service.serve request route verb).on now m = (.ok r, m'))
    (hstatus : r.status ∈ [Status.ok, .created]) : ∃ payload, Service.payload request = .ok payload ∧
      ReadBack earlier m request payload m' r := by
  unfold Service.serve at hon
  split at hon
  case h_2 =>
    obtain ⟨payload, hpayload, hon⟩ := ok_of_withPayload hon
    exact ⟨payload, hpayload, readBack_createUser hroute husers hon⟩
  case h_4 | h_5 =>
    obtain ⟨id, hid, hon⟩ := ok_of_withId hon
    obtain ⟨payload, hpayload, hon⟩ := ok_of_withPayload hon
    exact ⟨payload, hpayload, readBack_updateUser hm hw ⟨_, hroute, hid⟩ hon⟩
  case h_9 =>
    obtain ⟨payload, hpayload, hon⟩ := ok_of_withPayload hon
    exact ⟨payload, hpayload, readBack_createPost hroute hposts hon⟩
  case h_11 | h_12 =>
    obtain ⟨id, hid, hon⟩ := ok_of_withId hon
    obtain ⟨payload, hpayload, hon⟩ := ok_of_withPayload hon
    exact ⟨payload, hpayload, readBack_updatePost hm hw ⟨_, hroute, hid⟩ hon⟩
  case h_14 =>
    cases hon
    exact absurd (show Status.methodNotAllowed ∈ _ from hstatus) (by decide)
  all_goals exact absurd hverb (by decide)

theorem status_of_error (e : ServiceError) :
    (Response.ofError e).status ∉ [Status.ok, .created] := by
  change e.status ∉ _
  cases e <;> simp [ServiceError.status]

theorem code_of_error (e : ServiceError) : 400 ≤ (Response.ofError e).status.code := by
  change 400 ≤ e.status.code
  cases e <;> simp [ServiceError.status, Status.code]

theorem code_of_written {status : Status} (h : status ∈ [Status.ok, .created]) :
    status.code < 400 := by
  revert h
  cases status <;> decide

end Requests

namespace Memory

theorem served_eq_after (m : Memory) (requests : List (Timestamp × Request)) :
    m.served requests = m.after (m.traffic requests) := by
  induction requests generalizing m with
  | nil => rfl
  | cons reading requests ih =>
    rw [traffic, after_append, ← run_eq_after]
    exact ih _

theorem served_append (m : Memory) (earlier later : List (Timestamp × Request)) :
    m.served (earlier ++ later) = (m.served earlier).served later := by
  induction earlier generalizing m with
  | nil => rfl
  | cons reading earlier ih => exact ih _

theorem ok_of_answer (hmethod : request.method ≠ "HEAD")
    (hstatus : (m.answer now request).1.status.code < 400) :
    ∃ route, Route.ofPath? request.uri.path = some route ∧
      (Service.serve request route (Verb.ofMethod? request.method)).on now m =
        (.ok (m.answer now request).1, (m.answer now request).2) := by
  rw [answer_eq, trimmed_eq hmethod] at hstatus ⊢
  unfold Service.handle at hstatus ⊢
  cases hroute : Route.ofPath? request.uri.path with
  | none =>
    rw [hroute] at hstatus
    exact absurd hstatus (Nat.not_lt.2 (code_of_error (.unknownRoute request.uri)))
  | some route =>
    rw [hroute] at hstatus
    refine ⟨route, rfl, ?_⟩
    dsimp only at hstatus ⊢
    generalize (Service.serve request route _).on now m = outcome at hstatus
    obtain ⟨outcome, m'⟩ := outcome
    cases outcome with
    | error e => exact absurd hstatus (Nat.not_lt.2 (code_of_error e))
    | ok r => rfl

/-- Whoever writes reads it back: over every store that requests lead to, a write that succeeds is
answered by what its payload makes of the user or post, and so is whoever asks for that next. The
clock of the requests before shows years of four digits. -/
theorem read_back (requests : List (Timestamp × Request)) (now : Timestamp) (request : Request)
    (hclock : ∀ t ∈ Timestamp.stamped (requests.map (·.1)), t.Writable 0)
    (hmethod : request.method ∈ ["POST", "PUT", "PATCH"])
    (hstatus : ((served {} requests).answer now request).1.status ∈ [Status.ok, .created]) :
    ∃ payload, Service.payload request = .ok payload ∧
      ReadBack (history {} (traffic {} requests)) (served {} requests) request payload
        ((served {} requests).answer now request).2
        ((served {} requests).answer now request).1 := by
  obtain ⟨hm, hd⟩ := dated_of_requests requests
  have husers := Kind.fresh_after Kind.stepwise_users rfl (traffic {} requests)
  have hposts := Kind.fresh_after Kind.stepwise_posts rfl (traffic {} requests)
  rw [← served_eq_after] at husers hposts
  have htrimmed (r : Response) : Service.trimmed request r = r :=
    if_neg fun h => absurd (h ▸ hmethod) (by decide)
  rw [answer_eq, htrimmed] at hstatus ⊢
  cases hon : (Service.handle request).on now (served {} requests) with
  | mk outcome m' =>
    rw [hon] at hstatus
    cases outcome with
    | error e => exact absurd hstatus (status_of_error e)
    | ok r =>
      unfold Service.handle at hon
      split at hon
      case h_2 => cases hon
      case h_1 route hroute =>
        exact readBack_serve hm (hd.writable hclock) hroute (verb_of_write hmethod) husers hposts
          hon hstatus

theorem read_back_renamed :
    let renamed : Request := {
      method := "PATCH"
      uri := { path := "/users/1" }
      contentType := some "application/json"
      body := utf8 "\x7b\"first_name\": \" Augusta \"\x7d" }
    (∀ t ∈ Timestamp.stamped [⟨0, 0⟩], t.Writable 0) ∧
      renamed.method ∈ ["POST", "PUT", "PATCH"] ∧
      ((served {} [(⟨0, 0⟩, newAda)]).answer ⟨1, 0⟩ renamed).1.status ∈ [Status.ok, .created] ∧
      ∃ payload, Service.payload renamed = .ok payload ∧
        ReadBack (history {} (traffic {} [(⟨0, 0⟩, newAda)])) (served {} [(⟨0, 0⟩, newAda)]) renamed
          payload ((served {} [(⟨0, 0⟩, newAda)]).answer ⟨1, 0⟩ renamed).2
          ((served {} [(⟨0, 0⟩, newAda)]).answer ⟨1, 0⟩ renamed).1 := by
  intro renamed
  have hclock : ∀ t ∈ Timestamp.stamped [⟨0, 0⟩], t.Writable 0 := by
    apply Timestamp.writable_stamped
    simp only [Timestamp.writable_iff]
    decide
  have hstatus : ((served {} [(⟨0, 0⟩, newAda)]).answer ⟨1, 0⟩ renamed).1.status ∈
      [Status.ok, .created] := by
    decide +kernel
  refine ⟨hclock, by decide, hstatus, ?_⟩
  exact read_back [(⟨0, 0⟩, newAda)] ⟨1, 0⟩ renamed hclock (by decide) hstatus

end Memory

end Bulletin
