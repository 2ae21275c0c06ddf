import Bulletin.Proofs.Service.ReadBack
import Bulletin.Proofs.Store.Spent
import Bulletin.Service.Gone

/-!
Whoever is deleted stays deleted. An id that is out of use stays so, which is a matter of the store;
what requests find of a user or post that is not there, they find in any store.
-/

namespace Bulletin

variable {α : Type} {now : Timestamp} {m m' : Memory}
variable {request : Request} {route : Route} {r : Response}

namespace Handler

theorem on_withPayload {payload : Json.Members} {handler : Json.Members → Handler α}
    (h : Service.payload request = .ok payload) :
    (Service.withPayload request handler).on now m = (handler payload).on now m := by
  rw [Service.withPayload_of_ok h]

section Named

variable {id : UserId} {payload : Json.Members}
variable (hauthor : payload.get? "author" = some (.number (.natural id.number)))
include hauthor

theorem known_of_createPost (hon : (createPost payload).on now m = (.ok r, m')) :
    m.users.contains id := by
  obtain ⟨new, _, hparse, hon⟩ := ok_of_bind hon
  obtain ⟨hnew, rfl⟩ := on_parse_ok hparse
  obtain ⟨author, _, hresolve, -⟩ := ok_of_bind hon
  obtain ⟨hfound, rfl⟩ := on_resolveAuthor_ok hresolve
  obtain rfl : id = new.author :=
    Json.id_of_natural ((given_newPost hnew ⟨0⟩ now).1.author _ hauthor)
  exact Option.isSome_iff_exists.2 ⟨author, hfound⟩

theorem known_of_updatePost {mode : Intent} {post : PostId} (hm : m.Linked)
    (hon : (updatePost mode post payload).on now m = (.ok r, m')) : m.users.contains id := by
  obtain ⟨old, changes, -, rfl, htakes, -⟩ := ok_of_updatePost hm hon
  have hgiven := Json.id_of_natural
    ((given_postChanges htakes.parsed now old).1.author _ hauthor)
  exact hgiven ▸ htakes.author hm

theorem known_of_serve {verb : Option Verb} (hm : m.Linked)
    (hpath : route = .posts ∨ ∃ segment, route = .post segment)
    (hverb : verb ∈ [some Verb.post, some .put, some .patch])
    (hpayload : Service.payload request = .ok payload)
    (hon : (Service.serve request route verb).on now m = (.ok r, m'))
    (hcode : r.status.code < 400) : m.users.contains id := by
  unfold Service.serve at hon
  split at hon
  case h_9 =>
    rw [on_withPayload hpayload] at hon
    exact known_of_createPost hauthor hon
  case h_11 | h_12 =>
    obtain ⟨post, -, hon⟩ := ok_of_withId hon
    rw [on_withPayload hpayload] at hon
    exact known_of_updatePost hauthor hm hon
  case h_14 =>
    cases hon
    exact absurd hcode (show ¬ 405 < 400 by decide)
  all_goals first | exact absurd hverb (by decide) | simp at hpath

end Named

end Handler

namespace Memory

open Handler

theorem user_askedForPosts {id : UserId} (hget : m.users.get? id = none)
    (hmethod : request.method ∈ ["GET", "HEAD"]) (hlead : request.LeadsTo .userPosts id) :
    (m.answer now request).1.status = .notFound := by
  obtain ⟨segment, hroute, hid⟩ := hlead
  simp only [List.mem_cons, List.not_mem_nil, or_false] at hmethod
  rcases hmethod with h | h
  · exact status_of_serve h hroute ((on_withId hid).trans (on_listUserPosts_missing hget))
  · exact status_of_serve h hroute ((on_withId hid).trans (on_listUserPosts_missing hget))

theorem named_unknown {id : UserId} {payload : Json.Members} (hm : m.Linked)
    (hunknown : m.users.contains id = false)
    (hrequest : request.WritesPost) (hpayload : Service.payload request = .ok payload)
    (hauthor : payload.get? "author" = some (.number (.natural id.number))) :
    400 ≤ (m.answer now request).1.status.code := by
  obtain ⟨hmethod, hpath⟩ := hrequest
  apply Nat.le_of_not_lt
  intro hcode
  obtain ⟨route, hroute, hon⟩ := ok_of_answer (fun h => absurd (h ▸ hmethod) (by decide)) hcode
  rw [hroute] at hpath
  simp only [Option.some.injEq] at hpath
  have hknown := known_of_serve hauthor hm hpath (verb_of_write hmethod) hpayload hon hcode
  rw [hunknown] at hknown
  cases hknown

theorem body_of_viewPosts (hm : m.Linked) {posts : List Post}
    (hposts : ∀ post ∈ posts, post ∈ m.posts.values)
    (hon : (viewPosts [] posts >>= fun shown =>
      respond .ok (writeList? PostView.write? shown)).on now m = (.ok r, m')) :
    writeList? PostView.write? (posts.map m.shown) = some r.body := by
  have hauthors post (hpost : post ∈ posts) := hm.authors post (hposts post hpost)
  rw [on_bind_ok (on_viewPosts hm hauthors fun _ _ h => by cases h)] at hon
  obtain ⟨body, hbody, rfl, -⟩ := ok_of_respond hon
  exact hbody

section Listed

variable (hstatus : (m.answer now request).1.status = .ok)
include hstatus

theorem listed_of_status (hmethod : request.method = "GET") :
    ∃ route, Route.ofPath? request.uri.path = some route ∧
      (Service.serve request route (some .get)).on now m =
        (.ok (m.answer now request).1, (m.answer now request).2) := by
  have h := ok_of_answer (by rw [hmethod]; decide) (by rw [hstatus]; decide)
  rw [hmethod] at h
  exact h

theorem users_listed (hmethod : request.method = "GET")
    (hroute : Route.ofPath? request.uri.path = some .users) :
    writeList? User.write? m.users.values = some (m.answer now request).1.body := by
  obtain ⟨route, hroute', hon⟩ := listed_of_status hstatus hmethod
  obtain rfl := Option.some.inj (hroute.symm.trans hroute')
  obtain ⟨users, _, hcall, hon⟩ := ok_of_bind hon
  cases ok_of_call hcall
  obtain ⟨body, hbody, hr, -⟩ := ok_of_respond hon
  rw [hr]
  exact hbody

theorem posts_listed (hm : m.Linked) (hlists : request.ListsPosts) :
    ∃ posts : List Post, (∀ post ∈ posts, post ∈ m.posts.values) ∧
      writeList? PostView.write? (posts.map m.shown) = some (m.answer now request).1.body := by
  obtain ⟨hmethod, hpath⟩ := hlists
  obtain ⟨route, hroute, hon⟩ := listed_of_status hstatus hmethod
  rw [hroute] at hpath
  rcases hpath with h | ⟨segment, h⟩ <;> cases h
  · obtain ⟨posts, _, hcall, hon⟩ := ok_of_bind hon
    cases ok_of_call hcall
    exact ⟨_, fun _ hpost => hpost, body_of_viewPosts hm (fun _ hpost => hpost) hon⟩
  · obtain ⟨id, -, hon⟩ := ok_of_withId hon
    obtain ⟨found, _, hcall, hon⟩ := ok_of_bind hon
    cases ok_of_call hcall
    obtain ⟨posts, _, hfound, hon⟩ := ok_of_bind hon
    obtain ⟨hposts, rfl⟩ := ok_of_found hfound
    have hmem := mem_of_userPosts hposts
    exact ⟨posts, hmem, body_of_viewPosts hm hmem hon⟩

end Listed

section Without

variable (hm : m.Linked)
include hm

theorem without_user {id : UserId} (hspent : m.users.Spent id) : m.WithoutUser id where
  asked _ _ := Editing.Handlers.users.asked hspent.get?
  askedForPosts _ _ := user_askedForPosts hspent.get?
  changed _ _ _ := Editing.Handlers.users.changed hspent.get?
  named _ _ _ hrequest hpayload hauthor :=
    named_unknown hm hspent.contains hrequest hpayload hauthor
  users now request hmethod hroute hstatus := by
    refine ⟨_, users_listed hstatus hmethod hroute, fun user huser hid => ?_⟩
    have hknown := hm.users.contains_iff.2 ⟨user, huser, hid⟩
    rw [hspent.contains] at hknown
    cases hknown
  posts now request hlists hstatus := by
    obtain ⟨posts, hposts, hbody⟩ := posts_listed hstatus hm hlists
    refine ⟨_, hbody, fun view hview hid => ?_⟩
    obtain ⟨post, hpost, rfl⟩ := List.mem_map.1 hview
    have hknown := hm.authors post (hposts post hpost)
    rw [show post.author = id from hid, hspent.contains] at hknown
    cases hknown

theorem without_post {id : PostId} (hspent : m.posts.Spent id) : m.WithoutPost id where
  asked _ _ := Editing.Handlers.posts.asked hspent.get?
  changed _ _ _ := Editing.Handlers.posts.changed hspent.get?
  posts now request hlists hstatus := by
    obtain ⟨posts, hposts, hbody⟩ := posts_listed hstatus hm hlists
    refine ⟨_, hbody, fun view hview hid => ?_⟩
    obtain ⟨post, hpost, rfl⟩ := List.mem_map.1 hview
    have hknown := hm.posts.contains_iff.2 ⟨post, hposts post hpost, hid⟩
    rw [hspent.contains] at hknown
    cases hknown

end Without

theorem traffic_append (m : Memory) (earlier later : List (Timestamp × Request)) :
    m.traffic (earlier ++ later) = m.traffic earlier ++ (m.served earlier).traffic later := by
  induction earlier generalizing m with
  | nil => rfl
  | cons reading earlier ih =>
    rw [List.cons_append, traffic, traffic, ih, List.append_assoc, served]

theorem sound_roomFor_served (hm : m.Sound) (earlier later : List (Timestamp × Request))
    (hroom : m.RoomFor (m.history (m.traffic (earlier ++ later)))) :
    (m.served earlier).Sound ∧ (m.served earlier).RoomFor
      ((m.served earlier).history ((m.served earlier).traffic later)) := by
  rw [traffic_append, history_append, ← served_eq_after] at hroom
  have h := sound_roomFor_after hm _ _ hroom
  rwa [← served_eq_after] at h

/-- After a deletion was answered by its success, the user or post is gone in every store that
requests still lead to, whatever they are: the id is not given out again, and nothing else brings
it back. A user's posts are gone with the user. -/
theorem gone_for_good (earlier later : List (Timestamp × Request)) (now : Timestamp)
    (deletion : Request)
    (husers : (history {} (traffic {} (earlier ++ (now, deletion) :: later))).createdUsers.length <
      2 ^ 64)
    (hposts : (history {} (traffic {} (earlier ++ (now, deletion) :: later))).createdPosts.length <
      2 ^ 64)
    (hmethod : deletion.method = "DELETE")
    (hstatus : ((served {} earlier).answer now deletion).1.status = .noContent) :
    let final := served {} (earlier ++ (now, deletion) :: later)
    (∀ id, deletion.LeadsTo .user id → final.WithoutUser id ∧
      ∀ post ∈ (served {} earlier).posts.values, post.author = id → final.WithoutPost post.id) ∧
    ∀ id, deletion.LeadsTo .post id → final.WithoutPost id := by
  have hroom := roomFor_empty husers hposts
  obtain ⟨hm, hroom⟩ := sound_roomFor_served sound_empty earlier ((now, deletion) :: later) hroom
  obtain ⟨hm', hroom'⟩ := sound_roomFor_served hm [(now, deletion)] later hroom
  have hlinked := (sound_after hm' _ hroom').toLinked
  rw [served_append]
  dsimp only [served] at hlinked hroom' ⊢
  rw [served_eq_after]
  refine ⟨fun id hlead => ⟨?_, fun post hpost hauthor => ?_⟩, fun id hlead => ?_⟩
  · obtain ⟨hknown, hleft⟩ := Editing.Handlers.users.deleted hmethod hstatus hlead
    apply without_user hlinked
    apply Kind.spent_after Kind.stepwise_users _ hroom'.users
    rw [hleft]
    exact Table.spent_erase hm.users hm.userIds hknown
  · obtain ⟨-, hleft⟩ := Editing.Handlers.users.deleted hmethod hstatus hlead
    apply without_post hlinked
    apply Kind.spent_after Kind.stepwise_posts _ hroom'.posts
    rw [hleft]
    apply Table.spent_filter (p := fun other => other.author ≠ id) hm.posts hm.postIds hpost
    simpa using hauthor
  · obtain ⟨hknown, hleft⟩ := Editing.Handlers.posts.deleted hmethod hstatus hlead
    apply without_post hlinked
    apply Kind.spent_after Kind.stepwise_posts _ hroom'.posts
    rw [hleft]
    exact Table.spent_erase hm.posts hm.postIds hknown

theorem gone_ada_for_good :
    let newPost : Request := {
      method := "POST"
      uri := { path := "/posts" }
      contentType := some "application/json"
      body := utf8 "\x7b\"title\": \"First\", \"content\": \"Hello\", \"author\": 1\x7d" }
    let deletion : Request := { method := "DELETE", uri := { path := "/users/1" } }
    let earlier := [(⟨0, 0⟩, newAda), (⟨1, 0⟩, newPost)]
    let run := earlier ++ (⟨2, 0⟩, deletion) :: [(⟨3, 0⟩, newAda)]
    (history {} (traffic {} run)).createdUsers.length < 2 ^ 64 ∧
      (history {} (traffic {} run)).createdPosts.length < 2 ^ 64 ∧
      ((served {} earlier).answer ⟨2, 0⟩ deletion).1.status = .noContent ∧
      (served {} run).users.values.map User.id = [⟨2⟩] ∧
      (served {} run).WithoutUser ⟨1⟩ ∧ (served {} run).WithoutPost ⟨1⟩ := by
  intro newPost deletion earlier run
  have husers : (history {} (traffic {} run)).createdUsers.length < 2 ^ 64 := by decide +kernel
  have hposts : (history {} (traffic {} run)).createdPosts.length < 2 ^ 64 := by decide +kernel
  have hstatus : ((served {} earlier).answer ⟨2, 0⟩ deletion).1.status = .noContent := by
    decide +kernel
  have hpost : ∃ post ∈ (served {} earlier).posts.values, post.id = ⟨1⟩ ∧ post.author = ⟨1⟩ := by
    decide +kernel
  obtain ⟨post, hmem, hid, hauthor⟩ := hpost
  obtain ⟨huser, hgone⟩ := (gone_for_good earlier [(⟨3, 0⟩, newAda)] ⟨2, 0⟩ deletion husers hposts
    rfl hstatus).1 ⟨1⟩ (leadsTo_id (segment_id _) (by decide))
  exact ⟨husers, hposts, hstatus, by decide +kernel, huser, hid ▸ hgone post hmem hauthor⟩

end Memory

end Bulletin
