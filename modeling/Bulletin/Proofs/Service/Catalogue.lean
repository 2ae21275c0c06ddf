import Bulletin.Proofs.Service.ReadBack
import Bulletin.Proofs.View.SentBack
import Bulletin.Service.Catalogue

namespace Bulletin

variable {now : Timestamp} {m : Memory} {n : Nat}

theorem PostView.author_of_write {v v' : PostView} {body : Bytes} (h : v.write? = some body)
    (h' : v'.write? = some body) : v.post.author = v'.post.author := by
  obtain ⟨createdAt, updatedAt, hread⟩ := readObject_write h
  obtain ⟨createdAt', updatedAt', hread'⟩ := readObject_write h'
  have hmembers := Except.ok.inj (hread.symm.trans hread')
  have hauthor := congrArg (·.get? "author") hmembers
  exact Json.id_of_natural (Option.some.inj hauthor)

namespace Memory

open Handler

def catalogue (m : Memory) : Catalogue where
  users := m.users.values.map fun user => (user, user.write?.getD [])
  posts := m.posts.values.map fun post => (m.shown post, (m.shown post).write?.getD [])

section Lookup

variable (hm : m.Linked)
include hm

theorem catalogue_user? (id : UserId) : m.catalogue.user? id =
    (m.users.get? id).map fun user => (user, user.write?.getD []) := by
  rw [hm.users.get?_eq_find?]
  exact List.find?_map ..

theorem catalogue_post? (id : PostId) : m.catalogue.post? id =
    (m.posts.get? id).map fun post => (m.shown post, (m.shown post).write?.getD []) := by
  rw [hm.posts.get?_eq_find?]
  exact List.find?_map ..

omit hm in
theorem catalogue_postsBy (id : UserId) : m.catalogue.postsBy id =
    (m.posts.values.filter (·.author = id)).map fun post =>
      (m.shown post, (m.shown post).write?.getD []) :=
  List.filter_map ..

end Lookup

theorem eq_some_getD {body? : Option Bytes} (h : body?.isSome) : body? = some (body?.getD []) := by
  obtain ⟨body, rfl⟩ := Option.isSome_iff_exists.1 h
  rfl

section Asking

variable (hm : m.Linked) (hw : m.Writable n)

include hw in
theorem on_listUsers : listUsers.on now m = (.ok (Catalogue.page m.catalogue.users), m) := by
  refine (on_bind_ok (on_call_ok (c := .listUsers) rfl)).trans ?_
  rw [writeList?_eq fun user huser => hw.user huser, Catalogue.page, catalogue,
    List.map_map]
  rfl

include hm hw

theorem on_pageOfPosts {posts : List Post} (hposts : ∀ post ∈ posts, post ∈ m.posts.values) :
    (viewPosts [] posts >>= fun shown =>
      respond .ok (writeList? PostView.write? shown)).on now m =
        (.ok (Catalogue.page (posts.map fun post =>
          (m.shown post, (m.shown post).write?.getD []))), m) := by
  have hauthors post (hpost : post ∈ posts) := hm.authors post (hposts post hpost)
  have hwritten : ∀ shown ∈ posts.map m.shown, shown.write?.isSome := by
    intro shown hshown
    obtain ⟨post, hpost, rfl⟩ := List.mem_map.1 hshown
    exact hw.post (hposts post hpost) _
  rw [on_bind_ok (on_viewPosts hm hauthors fun _ _ h => by cases h), writeList?_eq hwritten,
    Catalogue.page, List.map_map, List.map_map]
  rfl

theorem on_listPosts : listPosts.on now m = (.ok (Catalogue.page m.catalogue.posts), m) :=
  (on_bind_ok (on_call_ok (c := .listPosts) rfl)).trans
    (on_pageOfPosts hm hw fun _ hpost => hpost)

theorem on_listUserPosts {id : UserId} (hknown : m.users.contains id) :
    (listUserPosts id).on now m = (.ok (Catalogue.page (m.catalogue.postsBy id)), m) := by
  have hexec : m.exec now (.fetchUserPosts id) =
      (.ok (some (m.posts.values.filter (·.author = id))), m) := by
    rw [exec, userPosts, if_pos hknown]
  refine (on_bind_ok (on_call_ok hexec)).trans ?_
  rw [catalogue_postsBy]
  exact on_pageOfPosts hm hw fun _ hpost => List.mem_of_mem_filter hpost

theorem presents_catalogue : m.Presents m.catalogue where
  users now request hmethod hroute := answer_of_get hmethod hroute (on_listUsers hw)
  posts now request hmethod hroute := answer_of_get hmethod hroute (on_listPosts hm hw)
  user now request id hmethod := by
    rintro ⟨segment, hroute, hid⟩
    rw [catalogue_user? hm]
    cases hget : m.users.get? id with
    | none =>
      exact answer_of_get hmethod hroute ((on_withId hid).trans (on_getUser_missing hget))
    | some user =>
      obtain ⟨hmem, rfl⟩ := hm.users.get?_eq_some_iff.1 hget
      have hbody := eq_some_getD (hw.user hmem)
      exact (showsUser hget hbody).answered now request hmethod ⟨segment, hroute, hid⟩
  userPosts now request id hmethod := by
    rintro ⟨segment, hroute, hid⟩
    rw [catalogue_user? hm, Option.isSome_map]
    cases hget : m.users.get? id with
    | none =>
      exact answer_of_get hmethod hroute ((on_withId hid).trans (on_listUserPosts_missing hget))
    | some user =>
      have hknown : m.users.contains id := by rw [Table.contains, hget]; rfl
      exact answer_of_get hmethod hroute ((on_withId hid).trans (on_listUserPosts hm hw hknown))
  post now request id hmethod := by
    rintro ⟨segment, hroute, hid⟩
    rw [catalogue_post? hm]
    cases hget : m.posts.get? id with
    | none =>
      exact answer_of_get hmethod hroute ((on_withId hid).trans (on_getPost_missing hget))
    | some post =>
      obtain ⟨hmem, rfl⟩ := hm.posts.get?_eq_some_iff.1 hget
      have hbody := eq_some_getD (hw.post hmem (m.shown post).authorName)
      have hrender := render_eq hm (hm.authors post hmem)
      exact (showsPost hget hrender hbody).answered now request hmethod ⟨segment, hroute, hid⟩

end Asking

section Coherent

variable (hm : m.Linked) (hw : m.Writable n)

include hm hw

theorem coherent_catalogue : m.catalogue.Coherent where
  usersAscend := List.pairwise_map.2 hm.users.values_ascending
  postsAscend := List.pairwise_map.2 hm.posts.values_ascending
  usersWritten item hitem := by
    obtain ⟨user, huser, rfl⟩ := List.mem_map.1 hitem
    exact eq_some_getD (hw.user huser)
  postsWritten item hitem := by
    obtain ⟨post, hpost, rfl⟩ := List.mem_map.1 hitem
    exact eq_some_getD (hw.post hpost _)
  listed item hitem id := by
    obtain ⟨post, hpost, rfl⟩ := List.mem_map.1 hitem
    rw [catalogue_user? hm, Option.isSome_map, catalogue_postsBy, List.map_map]
    constructor
    · rintro ⟨-, hbody⟩
      obtain ⟨other, hother, hbody⟩ := List.mem_map.1 hbody
      obtain ⟨hother, hauthor⟩ := List.mem_filter.1 hother
      have hwritten : (m.shown post).write? = some ((m.shown post).write?.getD []) :=
        eq_some_getD (hw.post hpost _)
      have hsame : (m.shown other).write? = some ((m.shown post).write?.getD []) :=
        (eq_some_getD (hw.post hother _)).trans (congrArg some hbody)
      exact (of_decide_eq_true hauthor).symm.trans (PostView.author_of_write hsame hwritten)
    · rintro rfl
      refine ⟨hm.authors post hpost, List.mem_map.2 ⟨post, ?_, rfl⟩⟩
      exact List.mem_filter.2 ⟨hpost, decide_eq_true rfl⟩
  named item hitem := by
    obtain ⟨post, hpost, rfl⟩ := List.mem_map.1 hitem
    obtain ⟨author, hauthor⟩ := Option.isSome_iff_exists.1 (hm.authors post hpost)
    refine ⟨(author, author.write?.getD []), ?_, ?_⟩
    · change m.catalogue.user? post.author = _
      rw [catalogue_user? hm, hauthor]
      rfl
    · simp [shown, hauthor]

end Coherent

section Writing

variable {request : Request} {c : Catalogue}

theorem Presents.mem_of_showsPost (h : m.Presents c) {view : PostView} {body : Bytes}
    (hshows : m.ShowsPost view body) : body ∈ c.posts.map (·.2) := by
  let get : Request := { method := "GET", uri := { path := "/posts/" ++ toString view.post.id } }
  have hleads : get.LeadsTo .post view.post.id := leadsTo_id (segment_id _) rfl
  have hasked := h.post ⟨0, 0⟩ get _ rfl hleads
  rw [hshows.answered ⟨0, 0⟩ get rfl hleads] at hasked
  cases hfound : c.post? view.post.id with
  | none =>
    rw [hfound] at hasked
    cases congrArg Response.status hasked
  | some item =>
    rw [hfound] at hasked
    exact List.mem_map.2
      ⟨item, List.mem_of_find?_eq_some hfound, (congrArg Response.body hasked).symm⟩

theorem showsPost_of_written (hm : m.Linked) (hw : m.Writable n) (hrequest : request.WritesPost)
    (hstatus : (m.answer now request).1.status ∈ [Status.ok, .created]) :
    ∃ view, (m.answer now request).2.ShowsPost view (m.answer now request).1.body := by
  obtain ⟨hmethod, hpath⟩ := hrequest
  obtain ⟨route, hroute, hon⟩ :=
    ok_of_answer (fun h => absurd (h ▸ hmethod) (by decide)) (code_of_written hstatus)
  rw [hroute] at hpath
  obtain ⟨payload, -, hread⟩ : ∃ payload, Service.payload request = .ok payload ∧
      ReadBack [] m request payload _ _ :=
    readBack_serve hm hw hroute (verb_of_write hmethod) (fun _ => nofun) (fun _ => nofun) hon
      hstatus
  generalize (m.answer now request).1 = r at hread
  cases hread with
  | newUser h =>
    rw [hroute] at h
    cases h
    simp at hpath
  | changedUser h =>
    obtain ⟨segment, h, -⟩ := h
    rw [hroute] at h
    cases h
    simp at hpath
  | newPost _ hshows => exact ⟨_, hshows⟩
  | changedPost _ _ hshows => exact ⟨_, hshows⟩

end Writing

/-- All ways to ask for users and posts agree: there is one catalogue that all of them show, in every
store that requests lead to. What is shown of a post that has just been written is in it too. -/
theorem one_catalogue (requests : List (Timestamp × Request))
    (hclock : ∀ t ∈ Timestamp.stamped (requests.map (·.1)), t.Writable 0) :
    ∃ c : Catalogue, c.Coherent ∧ (served {} requests).Presents c ∧
      ∀ earlier now request, requests = earlier ++ [(now, request)] → request.WritesPost →
        ((served {} earlier).answer now request).1.status ∈ [Status.ok, .created] →
        ((served {} earlier).answer now request).1.body ∈ c.posts.map (·.2) := by
  obtain ⟨hm, hd⟩ := dated_of_requests requests
  have hw := hd.writable hclock
  have hpresents := presents_catalogue hm hw
  refine ⟨_, coherent_catalogue hm hw, hpresents, ?_⟩
  rintro earlier now request rfl hrequest hstatus
  rw [List.map_append] at hclock
  have hearlier : ∀ t ∈ Timestamp.stamped (earlier.map (·.1)), t.Writable 0 := fun t ht =>
    hclock t (Timestamp.mem_stamped_append ht)
  obtain ⟨hm', hd'⟩ := dated_of_requests earlier
  obtain ⟨view, hshows⟩ := showsPost_of_written hm' (hd'.writable hearlier) hrequest hstatus
  rw [served_append] at hpresents ⊢
  exact hpresents.mem_of_showsPost hshows

theorem one_catalogue_renamed :
    let newPost : Request := {
      method := "POST"
      uri := { path := "/posts" }
      contentType := some "application/json"
      body := utf8 "\x7b\"title\": \"First\", \"content\": \"Hello\", \"author\": 1\x7d" }
    let renamed : Request := {
      method := "PATCH"
      uri := { path := "/users/1" }
      contentType := some "application/json"
      body := utf8 "\x7b\"first_name\": \"Augusta\"\x7d" }
    let requests := [(⟨0, 0⟩, newAda), (⟨1, 0⟩, newPost), (⟨2, 0⟩, renamed)]
    (∀ t ∈ Timestamp.stamped [⟨0, 0⟩, ⟨1, 0⟩, ⟨2, 0⟩], t.Writable 0) ∧
      (served {} requests).users.values.map User.firstName = ["Augusta"] ∧
      (served {} requests).posts.values.length = 1 ∧
      ∃ c : Catalogue, c.Coherent ∧ (served {} requests).Presents c := by
  intro newPost renamed requests
  have hclock : ∀ t ∈ Timestamp.stamped [⟨0, 0⟩, ⟨1, 0⟩, ⟨2, 0⟩], t.Writable 0 := by
    apply Timestamp.writable_stamped
    simp only [Timestamp.writable_iff]
    decide
  obtain ⟨c, hcoherent, hpresents, -⟩ := one_catalogue requests hclock
  exact ⟨hclock, by decide +kernel, by decide +kernel, c, hcoherent, hpresents⟩

end Memory

end Bulletin
