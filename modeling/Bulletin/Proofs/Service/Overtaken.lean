import Bulletin.Proofs.Service.Guarded

namespace Bulletin

variable {start turns : List Turn}

namespace Handler

variable {i : Nat} {shows : Prop}

def Faultless (r : Response) (_ : List Turn) : Prop := r.status ≠ .internalError

theorem author_of_createPost {now : Timestamp} {m m' : Memory} {new : NewPost} {post : Post}
    (h : m.exec now (.createPost new) = (.ok post, m')) : post.author = new.author := by
  cases step_of_exec h with
  | idle hidle => cases hidle
  | createPost => rfl

theorem isSome_of_mem {user : User} (huser : user ∈ (Turn.store start).users.values)
    (hmore : start <+: turns) (htimes : ∀ t ∈ Turn.times turns, t.Writable 0) :
    user.write?.isSome :=
  (Turn.writable_store hmore htimes).user huser

section Users

theorem guarded_listUsers : Guarded i shows Faultless listUsers turns := by
  refine Guarded.bind (guarded_call (c := .listUsers) fun others now users hexec => ?_)
  obtain rfl := Except.ok.inj (Prod.mk.inj hexec).1
  exact guarded_respond (by decide) fun htimes => writeList?_isSome fun user huser =>
    isSome_of_mem huser (List.prefix_append _ _) htimes

theorem guarded_createUser (payload : Json.Members) :
    Guarded i shows Faultless (createUser payload) turns := by
  refine Guarded.bind (guarded_parse fun new => Guarded.bind ?_)
  refine guarded_call (c := .createUser new) fun others now user hexec => ?_
  have huser := Kind.mem_of_exec Kind.stepwise_users (Turn.dated_store _).1.users hexec (.inl rfl)
  exact guarded_respond (by decide) (isSome_of_mem huser (List.prefix_refl _))

theorem guarded_getUser (id : UserId) : Guarded i shows Faultless (getUser id) turns := by
  refine Guarded.bind (guarded_call (c := .fetchUser id) fun others now user? hexec => ?_)
  obtain rfl := Except.ok.inj (Prod.mk.inj hexec).1
  refine Guarded.bind (guarded_found (by simp [ServiceError.status]) fun user hget => ?_)
  have huser := ((Turn.dated_store _).1.users.get?_eq_some_iff.1 hget).1
  exact guarded_respond (by decide) (isSome_of_mem huser (List.prefix_append _ _))

theorem guarded_updateUser (mode : Intent) (id : UserId) (payload : Json.Members) :
    Guarded i shows Faultless (updateUser mode id payload) turns := by
  refine Guarded.bind (guarded_call (c := .fetchUser id) fun _ _ user? _ => ?_)
  refine Guarded.bind (Guarded.discard ?_)
  refine guarded_found (by simp [ServiceError.status]) fun _ _ => ?_
  refine Guarded.bind (guarded_parse fun changes => Guarded.bind ?_)
  refine guarded_call (c := .updateUser id changes) fun others now result hexec => ?_
  refine Guarded.bind (guarded_found (by simp [ServiceError.status]) ?_)
  rintro user rfl
  have huser := Kind.mem_of_exec Kind.stepwise_users (Turn.dated_store _).1.users hexec (.inr rfl)
  exact guarded_respond (by decide) (isSome_of_mem huser (List.prefix_refl _))

theorem guarded_delete {c : Call} {deleted : c.Result → Bool} {missing : ServiceError}
    (hmissing : missing.status = .notFound) :
    Guarded i shows Faultless (call c >>= fun result => removed missing (deleted result))
      turns := by
  refine Guarded.bind (guarded_call fun _ _ result _ => ?_)
  cases deleted result with
  | true => exact guarded_pure (by simp [Faultless])
  | false => exact guarded_throw (.refused (by simp [hmissing]))

end Users

section Posts

theorem guarded_resolveAuthor {id : UserId} {Q : User → List Turn → Prop}
    (h : ∀ author turns', author.id = id → Q author turns') :
    Guarded i shows Q (resolveAuthor id) turns := by
  refine Guarded.bind (guarded_call (c := .fetchUser id) fun _ _ author? hexec => ?_)
  obtain rfl := Except.ok.inj (Prod.mk.inj hexec).1
  refine guarded_found (by simp [ServiceError.unknownAuthor, ServiceError.status])
    fun author hget => ?_
  exact h author _ ((Turn.dated_store _).1.users.get?_eq_some_iff.1 hget).2

/-- A new post is shown with the author found before it was written, whoever is deleted then. -/
theorem guarded_createPost (payload : Json.Members) :
    Guarded i shows Faultless (createPost payload) turns := by
  refine Guarded.bind (guarded_parse fun new => Guarded.bind ?_)
  refine guarded_resolveAuthor fun author turns' hid => Guarded.bind ?_
  refine guarded_call (c := .createPost new) fun others now post hexec => ?_
  have hpost := Kind.mem_of_exec Kind.stepwise_posts (Turn.dated_store _).1.posts hexec (.inl rfl)
  have hauthor := author_of_createPost hexec
  apply Guarded.bind
  unfold view
  rw [render_some (hid.trans hauthor.symm)]
  have hfound : Found i (turns' ++ others ++ [⟨i, now, .createPost new⟩]) post :=
    ⟨⟨_, _, rfl, rfl⟩, hpost⟩
  exact guarded_respond (by decide) (Found.isSome ⟨post, _⟩ hfound (List.prefix_refl _))

theorem found_of_read {now : Timestamp} {c : Call} {post : Post}
    (hstore : Turn.store turns = Turn.store (turns ++ [⟨i, now, c⟩]))
    (hpost : post ∈ (Turn.store turns).posts.values) : Found i (turns ++ [⟨i, now, c⟩]) post :=
  ⟨⟨_, _, rfl, rfl⟩, hstore ▸ hpost⟩

variable (hshows : shows)
include hshows

theorem guarded_showPosts {posts : List Post} (hfound : ∀ post ∈ posts, Found i turns post) :
    Guarded i shows Faultless (viewPosts [] posts >>= fun shown =>
      respond .ok (writeList? PostView.write? shown)) turns := by
  apply Guarded.bind
  apply guarded_viewPosts hshows hfound (List.prefix_refl _) (fun _ _ h => by cases h)
  intro views turns' hmore hviews
  refine guarded_respond (by decide) fun htimes => writeList?_isSome fun shown hshown => ?_
  exact Found.isSome shown (hfound _ (hviews ▸ List.mem_map_of_mem hshown)) hmore htimes

theorem guarded_showPost {post : Post} (hfound : Found i turns post) :
    Guarded i shows Faultless (viewPost post >>= fun shown => respond .ok shown.write?) turns := by
  apply Guarded.bind
  apply guarded_viewPost hshows hfound (List.prefix_refl _)
  rintro shown turns' hmore rfl
  exact guarded_respond (by decide) (Found.isSome shown hfound hmore)

theorem guarded_listPosts : Guarded i shows Faultless listPosts turns := by
  refine Guarded.bind (guarded_call (c := .listPosts) fun others now posts hexec => ?_)
  obtain ⟨hposts, hstore⟩ := Prod.mk.inj hexec
  obtain rfl := Except.ok.inj hposts
  exact guarded_showPosts hshows fun post hpost => found_of_read hstore hpost

theorem guarded_listUserPosts (id : UserId) :
    Guarded i shows Faultless (listUserPosts id) turns := by
  refine Guarded.bind (guarded_call (c := .fetchUserPosts id) fun others now posts? hexec => ?_)
  obtain ⟨hposts, hstore⟩ := Prod.mk.inj hexec
  obtain rfl := Except.ok.inj hposts
  refine Guarded.bind (guarded_found (by simp [ServiceError.status]) fun posts hget => ?_)
  exact guarded_showPosts hshows fun post hpost =>
    found_of_read hstore (mem_of_userPosts hget post hpost)

theorem guarded_getPost (id : PostId) : Guarded i shows Faultless (getPost id) turns := by
  refine Guarded.bind (guarded_call (c := .fetchPost id) fun others now post? hexec => ?_)
  obtain ⟨hpost, hstore⟩ := Prod.mk.inj hexec
  obtain rfl := Except.ok.inj hpost
  refine Guarded.bind (guarded_found (by simp [ServiceError.status]) fun post hget => ?_)
  have hmem := ((Turn.dated_store _).1.posts.get?_eq_some_iff.1 hget).1
  exact guarded_showPost hshows (found_of_read hstore hmem)

theorem guarded_revisePost (id : PostId) (changes : PostChanges) :
    Guarded i shows Faultless (do
      let post : Post ← found (.postNotFound id) (← call (.updatePost id changes))
      respond .ok (← viewPost post).write?) turns := by
  refine Guarded.bind (guarded_call (c := .updatePost id changes) fun others now result hexec => ?_)
  refine Guarded.bind (guarded_found (by simp [ServiceError.status]) ?_)
  rintro post rfl
  have hmem := Kind.mem_of_exec Kind.stepwise_posts (Turn.dated_store _).1.posts hexec (.inr rfl)
  exact guarded_showPost hshows ⟨⟨_, _, rfl, rfl⟩, hmem⟩

theorem guarded_updatePost (mode : Intent) (id : PostId) (payload : Json.Members) :
    Guarded i shows Faultless (updatePost mode id payload) turns := by
  refine Guarded.bind (guarded_call (c := .fetchPost id) fun _ _ post? _ => ?_)
  refine Guarded.bind (Guarded.discard ?_)
  refine guarded_found (by simp [ServiceError.status]) fun _ _ => ?_
  refine Guarded.bind (guarded_parse fun changes => ?_)
  cases changes.author with
  | none => exact guarded_revisePost hshows id changes
  | some author =>
    refine Guarded.bind (Guarded.discard (guarded_resolveAuthor fun _ _ _ => ?_))
    exact guarded_revisePost hshows id changes

end Posts

theorem guarded_withId {entity : Entity} {segment : String} {handler : Id entity → Handler Response}
    (h : ∀ id, Guarded i shows Faultless (handler id) turns) :
    Guarded i shows Faultless (Service.withId segment handler) turns := by
  unfold Service.withId
  split
  · exact h _
  · exact guarded_throw (.refused (by simp [ServiceError.status]))

theorem guarded_withPayload {request : Request} {handler : Json.Members → Handler Response}
    (h : ∀ payload, Guarded i shows Faultless (handler payload) turns) :
    Guarded i shows Faultless (Service.withPayload request handler) turns := by
  unfold Service.withPayload
  split
  · exact h _
  · exact guarded_throw (.refused (by simp [ServiceError.status]))

theorem guarded_serve (request : Request) (route : Route) (verb : Option Verb) :
    Guarded i (route.showsStoredPosts verb) Faultless (Service.serve request route verb) turns := by
  unfold Service.serve
  split
  · exact guarded_listUsers
  · exact guarded_withPayload guarded_createUser
  · exact guarded_withId guarded_getUser
  · exact guarded_withId fun id => guarded_withPayload (guarded_updateUser _ id)
  · exact guarded_withId fun id => guarded_withPayload (guarded_updateUser _ id)
  · exact guarded_withId fun id => guarded_delete (c := .deleteUser id) rfl
  · exact guarded_withId (guarded_listUserPosts rfl)
  · exact guarded_listPosts rfl
  · exact guarded_withPayload guarded_createPost
  · exact guarded_withId (guarded_getPost rfl)
  · exact guarded_withId fun id => guarded_withPayload (guarded_updatePost rfl _ id)
  · exact guarded_withId fun id => guarded_withPayload (guarded_updatePost rfl _ id)
  · exact guarded_withId fun id => guarded_delete (c := .deletePost id) rfl
  · exact guarded_pure (by simp [Faultless, Service.notAllowed])

theorem guarded_handle (request : Request) :
    Guarded i request.showsStoredPosts Faultless (Service.handle request) turns := by
  unfold Service.handle Request.showsStoredPosts
  split
  case h_1 route hroute =>
    rw [hroute]
    exact guarded_serve request route _
  case h_2 => exact guarded_throw (.refused (by simp [ServiceError.status]))

end Handler

theorem Overtaken.mono {i : Nat} {d : Orphan} (h : Overtaken i d turns) (more : List Turn) :
    Overtaken i d (turns ++ more) := by
  obtain ⟨before, found, between, lookup, later, rfl, h⟩ := h
  exact ⟨before, found, between, lookup, later ++ more, by simp, h⟩

theorem Excused.mono {i : Nat} {shows : Prop} {e : ServiceError} (h : Excused i shows turns e)
    (more : List Turn) : Excused i shows (turns ++ more) e := by
  cases h with
  | refused he => exact .refused he
  | unwritable htimes =>
    exact .unwritable fun h => htimes fun t ht =>
      h t (Turn.mem_times_of_earlier (List.prefix_append _ _) ht)
  | overtaken hshows h => exact .overtaken hshows (h.mono more)

namespace Service

def Justified (requests : List Request) (i : Nat) (response : Response) (turns : List Turn) : Prop :=
  ∀ request, requests[i]? = some request → response.status = .internalError →
    ∃ e : ServiceError, e.status = .internalError ∧ response = trimmed request (.ofError e) ∧
      Excused i request.showsStoredPosts turns e

theorem stable_justified (requests : List Request) (i : Nat) (response : Response) :
    Stable (Justified requests i response) := by
  intro turns more h request hrequest hfault
  obtain ⟨e, hstatus, hresponse, hexcused⟩ := h request hrequest hfault
  exact ⟨e, hstatus, hresponse, hexcused.mono more⟩

theorem amid_respond {requests : List Request} {i : Nat} {request : Request}
    (hrequest : requests[i]? = some request) :
    Amid i (Justified requests i) (respond request) turns := by
  apply Amid.bind
  apply Amid.imp (Handler.guarded_handle request)
  intro outcome turns houtcome other hother hfault
  cases hrequest.symm.trans hother
  rw [Memory.status_trimmed] at hfault
  cases outcome with
  | ok r => exact absurd hfault houtcome
  | error e => exact ⟨e, hfault, rfl, houtcome⟩

/-- Among requests that are served at the same time, a fault is reported only by one that shows
posts it has found in the store, and only where the author of such a post is deleted before the
request looks the author up. The clock shows years of four digits, as do the times that are stamped
where it stands still. -/
theorem overtaken_of_fault (requests : List Request) (schedule : List (Nat × Timestamp))
    (hclock : ∀ t ∈ Turn.times (together requests schedule).turns, t.Writable 0)
    (i : Nat) (request : Request) (response : Response) (hrequest : requests[i]? = some request)
    (hresponse : (together requests schedule).result? i = some response)
    (hfault : response.status = .internalError) :
    request.showsStoredPosts ∧ ∃ d, response = trimmed request (.ofError (.orphan d)) ∧
      Overtaken i d (together requests schedule).turns := by
  have hstart : Round.Underway (Justified requests) { programs := requests.map respond } := by
    constructor
    · rfl
    · intro j program hprogram
      rw [List.getElem?_map] at hprogram
      obtain ⟨other, hother, rfl⟩ := Option.map_eq_some_iff.1 hprogram
      exact amid_respond hother
  have hrun := hstart.play (stable_justified requests) schedule
  obtain ⟨e, he, hreport, hexcused⟩ := hrun.result hresponse request hrequest hfault
  cases hexcused with
  | refused hrefused => exact absurd he hrefused
  | unwritable htimes => exact absurd hclock htimes
  | overtaken hshows hovertaken => exact ⟨hshows, _, hreport, hovertaken⟩

def departure : List Request := [
  Memory.newAda,
  { method := "POST"
    uri := { path := "/posts" }
    contentType := some "application/json"
    body := utf8 "\x7b\"title\": \"First\", \"content\": \"Hello\", \"author\": 1\x7d" },
  { method := "GET", uri := { path := "/posts/1" } },
  { method := "DELETE", uri := { path := "/users/1" } }]

def departing : List (Nat × Timestamp) :=
  [0, 1, 1, 2, 3, 2].map fun i => (i, ⟨0, 0⟩)

theorem clock_departure : ∀ t ∈ Turn.times (together departure departing).turns, t.Writable 0 := by
  apply Timestamp.writable_stamped
  simp only [Timestamp.writable_iff]
  decide +kernel

theorem fault_departure :
    ((together departure departing).result? 2).map Response.status = some .internalError := by
  decide +kernel

/-- A fault can come up though no time is out of range. -/
theorem not_faultless : ¬ ∀ (requests : List Request) (schedule : List (Nat × Timestamp)),
    (∀ t ∈ Turn.times (together requests schedule).turns, t.Writable 0) →
    ∀ i response, (together requests schedule).result? i = some response →
      response.status ≠ .internalError := by
  intro h
  obtain ⟨response, hresponse, hfault⟩ := Option.map_eq_some_iff.1 fault_departure
  exact h departure departing clock_departure 2 response hresponse hfault

theorem overtaken_of_departure :
    (∀ t ∈ Turn.times (together departure departing).turns, t.Writable 0) ∧
      ∃ request response, departure[2]? = some request ∧
        (together departure departing).result? 2 = some response ∧
        response.status = .internalError ∧ request.showsStoredPosts ∧
        ∃ d, response = trimmed request (.ofError (.orphan d)) ∧
          Overtaken 2 d (together departure departing).turns := by
  obtain ⟨response, hresponse, hfault⟩ := Option.map_eq_some_iff.1 fault_departure
  refine ⟨clock_departure, _, response, rfl, hresponse, hfault, ?_⟩
  exact overtaken_of_fault departure departing clock_departure 2 _ response rfl hresponse hfault

end Service

end Bulletin
