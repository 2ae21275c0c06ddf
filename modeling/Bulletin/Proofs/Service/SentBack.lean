import Bulletin.Proofs.Service.ReadBack
import Bulletin.Proofs.Service.Tidy
import Bulletin.Proofs.View.SentBack

namespace Bulletin

variable {now : Timestamp} {m : Memory} {get put : Request} {r : Response}

theorem Service.payload_of_readObject {request : Request} {members : Json.Members}
    (htype : request.contentType.any (MediaType.announcesJson <| utf8 ·))
    (hlength : request.body.length ≤ maxBodyLength)
    (hread : Json.readObject request.body = .ok members) : payload request = .ok members := by
  rw [payload, htype, hread, if_neg (by decide), if_neg (Nat.not_lt.2 hlength)]
  rfl

namespace Request.SendsBack

variable (h : get.SendsBack r put)
include h

theorem payload {members : Json.Members} (hread : Json.readObject r.body = .ok members) :
    Service.payload put = .ok members :=
  Service.payload_of_readObject h.contentType h.length (h.body ▸ hread)

theorem leadsTo {entity : Entity} {route : String → Route} {id : Id entity}
    (hget : get.LeadsTo route id) : put.LeadsTo route id := by
  obtain ⟨segment, hroute, hid⟩ := hget
  exact ⟨segment, h.uri ▸ hroute, hid⟩

end Request.SendsBack

namespace Handler

section User

variable {user : User} {body : Bytes}
variable (hm : m.Linked) (hu : m.Unshared) (huser : user ∈ m.users.values)

include hu huser in
theorem emailInUse_own : m.emailInUse user.email (some user.id) = false := by
  refine List.any_eq_false.2 fun other hother => ?_
  simpa using hu other hother user huser

include hm hu huser in
theorem on_updateUser_members (mode : Intent) (createdAt updatedAt : String) (ht : user.Tidy)
    (hwrite : (user.changes.revise now user).write? = some body) :
    (updateUser mode user.id (user.members createdAt updatedAt)).on now m =
      (.ok (.json .ok body), m.withUser (user.changes.revise now user)) := by
  apply on_updateUser ⟨hm.users.get?_eq_some_iff.2 ⟨huser, rfl⟩, ?_, ?_⟩ hwrite
  · exact parse_user_members ht createdAt updatedAt
  · exact fun email hemail => Option.some.inj hemail ▸ emailInUse_own hu huser

end User

section Post

variable {post : Post} {body : Bytes} (hm : m.Linked) (hpost : post ∈ m.posts.values)
include hm hpost

theorem on_updatePost_members (mode : Intent) (createdAt updatedAt : String) (ht : post.Tidy)
    (hwrite : PostView.write? ⟨post.changes.revise now post, (m.shown post).authorName⟩ =
      some body) :
    (updatePost mode post.id ((m.shown post).members createdAt updatedAt)).on now m =
      (.ok (.json .ok body), m.withPost (post.changes.revise now post)) := by
  apply on_updatePost hm ⟨hm.posts.get?_eq_some_iff.2 ⟨hpost, rfl⟩, ?_, ?_⟩ hwrite
  · exact parse_post_members (v := m.shown post) ht createdAt updatedAt
  · exact fun _ h => Option.some.inj h ▸ hm.authors post hpost

end Post

end Handler

theorem Editing.Handlers.answer_sentBack {entity : Entity} {α : Type} {k : Editing entity α}
    (x : k.Handlers) {id : Id entity} {asked changed : Timestamp} {m' : Memory} {shown : Bytes}
    {members : Json.Members} (hput : get.SendsBack (m.answer asked get).1 put)
    (hget : get.LeadsTo k.route id) (hshown : (m.answer asked get).1 = .json .ok shown)
    (hread : Json.readObject shown = .ok members)
    (hon : ∀ mode, (x.update mode id members).on changed m = (.ok r, m')) :
    (m.answer asked get).1.status = .ok ∧ m.answer changed put = (r, m') := by
  rw [hshown] at hput ⊢
  obtain ⟨mode, hs⟩ := Service.exists_serves hput.method
  exact ⟨rfl, x.answer_of_on hs (hput.leadsTo hget) (hput.payload hread) (hon mode)⟩

namespace Memory

section Answers

variable {asked changed : Timestamp} (hm : m.Linked) (ht : m.Tidy)
variable (hput : get.SendsBack (m.answer asked get).1 put)
include hm ht hput

theorem answer_user_sentBack (hu : m.Unshared) {user : User} (huser : user ∈ m.users.values)
    (hget : get.LeadsTo .user user.id) (hold : user.write?.isSome)
    (hnew : (user.changes.revise changed user).write?.isSome) :
    (m.answer asked get).1.status = .ok ∧ ∃ body, m.answer changed put =
      (.json .ok body, m.withUser (user.changes.revise changed user)) := by
  obtain ⟨body, hbody⟩ := Option.isSome_iff_exists.1 hold
  obtain ⟨body', hbody'⟩ := Option.isSome_iff_exists.1 hnew
  have hfound := hm.users.get?_eq_some_iff.2 ⟨huser, rfl⟩
  have hshown := (showsUser hfound hbody).answered asked get hput.asked hget
  obtain ⟨createdAt, updatedAt, hread⟩ := User.readObject_write hbody
  obtain ⟨hok, hwritten⟩ := Editing.Handlers.users.answer_sentBack hput hget hshown hread fun mode =>
    Handler.on_updateUser_members hm hu huser mode createdAt updatedAt (ht.users user huser) hbody'
  exact ⟨hok, body', hwritten⟩

theorem answer_post_sentBack {post : Post} (hpost : post ∈ m.posts.values)
    (hget : get.LeadsTo .post post.id) (hold : (m.shown post).write?.isSome)
    (hnew : (PostView.write?
      ⟨post.changes.revise changed post, (m.shown post).authorName⟩).isSome) :
    (m.answer asked get).1.status = .ok ∧ ∃ body, m.answer changed put =
      (.json .ok body, m.withPost (post.changes.revise changed post)) := by
  obtain ⟨body, hbody⟩ := Option.isSome_iff_exists.1 hold
  obtain ⟨body', hbody'⟩ := Option.isSome_iff_exists.1 hnew
  have hfound := hm.posts.get?_eq_some_iff.2 ⟨hpost, rfl⟩
  have hrender := Handler.render_eq hm (hm.authors post hpost)
  have hshown := (showsPost hfound hrender hbody).answered asked get hput.asked hget
  obtain ⟨createdAt, updatedAt, hread⟩ := PostView.readObject_write hbody
  obtain ⟨hok, hwritten⟩ := Editing.Handlers.posts.answer_sentBack hput hget hshown hread fun mode =>
    Handler.on_updatePost_members hm hpost mode createdAt updatedAt (ht.posts post hpost) hbody'
  exact ⟨hok, body', hwritten⟩

end Answers

theorem isSome_tick {times : List Timestamp} {now created updated : Timestamp}
    (hclock : ∀ t ∈ Timestamp.tick times now, t.Writable 0)
    (h : created ∈ times ∧ updated ∈ times) :
    created.write?.isSome ∧ (updated.after now).write?.isSome :=
  ⟨(hclock created (Timestamp.mem_tick.2 (.inl h.1))).write?_isSome,
    (hclock _ (Timestamp.mem_tick.2 (.inr (.inr ⟨updated, h.2, rfl⟩)))).write?_isSome⟩

/-- What is asked for and then sent back as it came is taken, and leaves everything as it was but
for the time of the last change, which is later. -/
theorem kept_when_sent_back (requests : List (Timestamp × Request)) (asked changed : Timestamp)
    (get put : Request)
    (hclock : ∀ t ∈ Timestamp.stamped (requests.map (·.1) ++ [changed]), t.Writable 0)
    (hput : get.SendsBack ((served {} requests).answer asked get).1 put) :
    let m := served {} requests
    let shown := m.answer asked get
    let written := shown.2.answer changed put
    (∀ user ∈ m.users.values, get.LeadsTo .user user.id →
      shown.1.status = .ok ∧ written.1.status = .ok ∧
        ∃ time : Timestamp, user.updatedAt.instant < time.instant ∧
          written.2 = m.withUser { user with updatedAt := time }) ∧
    ∀ post ∈ m.posts.values, get.LeadsTo .post post.id →
      shown.1.status = .ok ∧ written.1.status = .ok ∧
        ∃ time : Timestamp, post.updatedAt.instant < time.instant ∧
          written.2 = m.withPost { post with updatedAt := time } := by
  have hread : ((served {} requests).answer asked get).2 = served {} requests :=
    answer_read (hput.asked ▸ rfl)
  obtain ⟨hm, hd⟩ := dated_of_requests requests
  rw [Timestamp.stamped_append] at hclock
  have ht := served_tidy requests ⟨linked_empty, tidy_empty⟩
  have hw := (hd.tick changed).writable hclock
  dsimp only
  rw [hread]
  refine ⟨fun user huser hget => ?_, fun post hpost hget => ?_⟩
  · have hu : (served {} requests).Unshared := by
      rw [served_eq_after]
      exact unshared_after linked_empty unshared_empty _
    obtain ⟨hshown, body, hwritten⟩ := answer_user_sentBack hm ht hput hu huser hget
      (hw.user huser) (User.write?_isSome_iff.2 (isSome_tick hclock (hd.users user huser)))
    rw [hwritten]
    exact ⟨hshown, rfl, _, Timestamp.lt_after _ changed, rfl⟩
  · obtain ⟨hshown, body, hwritten⟩ := answer_post_sentBack hm ht hput hpost hget
      (hw.post hpost _) (PostView.write?_isSome_iff.2 (isSome_tick hclock (hd.posts post hpost)))
    rw [hwritten]
    exact ⟨hshown, rfl, _, Timestamp.lt_after _ changed, rfl⟩

theorem kept_when_ada_sentBack :
    let m := served {} [(⟨0, 0⟩, newAda)]
    let get : Request := { method := "GET", uri := { path := "/users/1" } }
    let shown := m.answer ⟨1, 0⟩ get
    let put : Request := { get with
      method := "PUT"
      contentType := some "application/json; charset=utf-8"
      body := shown.1.body }
    (∀ t ∈ Timestamp.stamped [⟨0, 0⟩, ⟨0, 0⟩], t.Writable 0) ∧ get.SendsBack shown.1 put ∧
      ∃ user ∈ m.users.values, get.LeadsTo .user user.id ∧
        (shown.2.answer ⟨0, 0⟩ put).1.status = .ok ∧
        ∃ time : Timestamp, user.updatedAt.instant < time.instant ∧
          (shown.2.answer ⟨0, 0⟩ put).2 = m.withUser { user with updatedAt := time } := by
  intro m get shown put
  have hclock : ∀ t ∈ Timestamp.stamped [⟨0, 0⟩, ⟨0, 0⟩], t.Writable 0 := by
    apply Timestamp.writable_stamped
    simp only [Timestamp.writable_iff]
    decide
  have hput : get.SendsBack shown.1 put :=
    { asked := rfl
      method := .inl rfl
      uri := rfl
      contentType := by decide +kernel
      body := rfl
      length := by decide +kernel }
  have hada : ∃ user ∈ m.users.values, user.id = ⟨1⟩ := by decide +kernel
  obtain ⟨user, huser, hid⟩ := hada
  have hget : get.LeadsTo .user user.id := leadsTo_id (segment_id _) (by rw [hid]; decide)
  obtain ⟨-, hwritten, hkept⟩ :=
    (kept_when_sent_back [(⟨0, 0⟩, newAda)] ⟨1, 0⟩ ⟨0, 0⟩ get put hclock hput).1 user huser hget
  exact ⟨hclock, hput, user, huser, hget, hwritten, hkept⟩

end Memory

end Bulletin
