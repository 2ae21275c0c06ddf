import Bulletin.Proofs.Service.Received
import Bulletin.Proofs.Service.ReadBack
import Bulletin.Service.Attributed

namespace Bulletin

open Sql

variable {α β : Type} {action : Action} {log log' : List Sent}

theorem Sql.Sent.postRows_error (s : Statement) (r : Refusal) :
    Sent.postRows action ⟨s, .error r⟩ = [] := by
  cases s <;> rfl

def User.Received (log : List Sent) (user : User) : Prop :=
  ∃ x ∈ log, ∃ row ∈ x.userRows, row.Carries user

/-- More was received, but no more posts that are to be shown. -/
structure Onward (action : Action) (log log' : List Sent) : Prop where
  subset : log ⊆ log'
  postRows : log'.flatMap (·.postRows action) = log.flatMap (·.postRows action)

theorem onward_refl (log : List Sent) : Onward action log log := ⟨List.Subset.refl log, rfl⟩

theorem Onward.trans {log'' : List Sent} (h : Onward action log log')
    (h' : Onward action log' log'') : Onward action log log'' :=
  ⟨List.Subset.trans h.subset h'.subset, h'.postRows.trans h.postRows⟩

theorem onward_concat {x : Sent} (hx : x.postRows action = []) :
    Onward action log (log ++ [x]) where
  subset := List.subset_append_left log [x]
  postRows := by rw [List.flatMap_append, List.flatMap_singleton, hx, List.append_nil]

theorem User.Received.mono {user : User} (h : user.Received log) (hsub : log ⊆ log') :
    user.Received log' := by
  obtain ⟨x, hx, hrow⟩ := h
  exact ⟨x, hsub hx, hrow⟩

theorem Sql.PostRow.Shown.mono {row : PostRow} {view : PostView} (h : row.Shown log view)
    (hsub : log ⊆ log') : row.Shown log' view where
  carried := h.carried
  named := by
    obtain ⟨n, hn, x, hx, hauthor⟩ := h.named
    exact ⟨n, hn, x, hsub hx, hauthor⟩

theorem shown_of_render {row : PostRow} {post : Post} {user? : Option User} {view : PostView}
    (hpost : row.Carries post) (huser : ∀ user, user? = some user → user.Received log)
    (h : PostView.render post user? = .ok view) : row.Shown log view := by
  unfold PostView.render at h
  cases hfilter : user?.filter (·.id = post.author) with
  | none =>
    rw [hfilter] at h
    cases h
  | some author =>
    rw [hfilter] at h
    cases h
    obtain ⟨hsome, hid⟩ := Option.filter_eq_some_iff.1 hfilter
    obtain ⟨x, hx, authorRow, hrow, hcarries⟩ := huser author hsome
    obtain ⟨n, hn, hauthor⟩ := Option.map_eq_some_iff.1 hpost.author
    obtain ⟨n', hn', hauthor'⟩ := Option.map_eq_some_iff.1 hcarries.id
    have hid : author.id = post.author := of_decide_eq_true hid
    have hsame : n' = n := by
      rw [← Id.toRow_ofRow n', ← Id.toRow_ofRow n, hauthor', hauthor, hid]
    rw [hsame] at hn'
    exact ⟨hpost, n, hn, x, hx, authorRow, hrow, hn', hcarries.firstName⟩

/-- The failure is the service's own, or nothing was to be shown. -/
def Tolerated (action : Action) (e : ServiceError) (log : List Sent) : Prop :=
  e.status = .internalError ∨ log.flatMap (·.postRows action) = []

namespace Sql.Client

def Traces (action : Action) (Q : α → List Sent → Prop) (k : Session α) (log : List Sent) : Prop :=
  Dialogue.Brings (fun e log => Tolerated action (.ofStore e) log) Q k log

variable {s : Statement} {read : s.Answer → Except StoreError α} {Q : α → List Sent → Prop}

theorem traces_exchange {conflict : Refusal → Option StoreError}
    (hconflict : (∀ r, conflict r = none) ∨ log.flatMap (·.postRows action) = [])
    (hread : ∀ answer, Sound (read answer))
    (hQ : ∀ answer a, read answer = .ok a → Q a (log ++ [⟨s, .ok answer⟩])) :
    Traces action Q (exchange conflict s read) log := by
  intro reply
  cases reply with
  | ok answer =>
    change Dialogue.Yields _ (.done (read answer)) _
    cases hanswer : read answer with
    | ok a => exact hQ answer a hanswer
    | error e => exact .inl (hread answer e hanswer).status
  | error r =>
    obtain hnone | hnothing := hconflict
    · left
      change (ServiceError.ofStore ((conflict r).getD _)).status = _
      rw [hnone]
      rfl
    · right
      rw [List.flatMap_append, hnothing, List.flatMap_singleton, Sent.postRows_error]
      rfl

end Sql.Client

namespace Handler

def Traces (action : Action) (Q : α → List Sent → Prop) (h : Handler α) (log : List Sent) : Prop :=
  Dialogue.Brings (Tolerated action) Q (ExceptT.mk (Client.overDatabase h.run)) log

variable {Q : α → List Sent → Prop}

theorem Traces.bind {h : Handler α} {f : α → Handler β} {R : β → List Sent → Prop}
    (hh : Traces action (fun a log => Traces action R (f a) log) h log) :
    Traces action R (h >>= f) log := Dialogue.Brings.expand_bind hh

theorem Traces.discard {h : Handler α} {R : Unit → List Sent → Prop}
    (hh : Traces action (fun _ log => R () log) h log) : Traces action R (discard h) log :=
  Traces.bind hh

theorem traces_found {e : ServiceError} {a? : Option α}
    (he : a? = none → Tolerated action e log) (h : ∀ a, a? = some a → Q a log) :
    Traces action Q (found e a?) log := by
  cases a? with
  | none => exact he rfl
  | some a => exact h a rfl

theorem traces_call {c : Call} {Q : c.Result → List Sent → Prop}
    (h : Client.Traces action Q (Client.perform c) log) : Traces action Q (call c) log :=
  Dialogue.Brings.mapError h

theorem traces_view {post : Post} {user? : Option User} {Q : PostView → List Sent → Prop}
    (h : ∀ shown, PostView.render post user? = .ok shown → Q shown log) :
    Traces action Q (view post user?) log := by
  unfold view
  cases hrender : PostView.render post user? with
  | ok shown => exact h shown hrender
  | error d => exact .inl rfl

theorem traces_respond {status : Status} {body? : Option Bytes} {Q : Response → List Sent → Prop}
    (h : ∀ body, body? = some body → Q (.json status body) log) :
    Traces action Q (respond status body?) log := by
  cases body? with
  | none => exact .inl rfl
  | some body => exact h body rfl

theorem traces_parse {form : Form α} {mode : Intent} {payload : Json.Members}
    (hnothing : log.flatMap (·.postRows action) = []) (hQ : ∀ a, Q a log) :
    Traces action Q (parse form mode payload) log := by
  unfold parse
  cases form.parse mode payload with
  | error errors => exact .inr hnothing
  | ok a => exact hQ a

theorem traces_fetchUser {id : UserId} {Q : Option User → List Sent → Prop}
    (hQ : ∀ user? log', Onward action log log' →
      (∀ user, user? = some user → user.Received log') → Q user? log') :
    Traces action Q (fetchUser id) log := by
  apply traces_call (c := .fetchUser id)
  change Client.Traces action Q (Client.fetchUser id) log
  rw [Client.fetchUser_eq]
  refine Client.traces_exchange (.inl fun _ => rfl) (sound_head? UserRow.sound_read) ?_
  intro (rows : List UserRow) user? hread
  refine hQ user? _ (onward_concat rfl) fun user huser => ?_
  obtain ⟨-, hnone⟩ | ⟨row, rest, item, rfl, hsome, hrow⟩ := head?_ok hread
  · cases hnone.symm.trans huser
  · cases hsome.symm.trans huser
    exact ⟨_, List.mem_append_right log List.mem_cons_self, row, List.mem_cons_self,
      row.decided_read.holds hrow⟩

theorem traces_resolveAuthor {author : UserId} {Q : User → List Sent → Prop}
    (hnothing : log.flatMap (·.postRows action) = [])
    (hQ : ∀ user log', Onward action log log' → user.Received log' → Q user log') :
    Traces action Q (resolveAuthor author) log := by
  apply Traces.bind
  apply traces_fetchUser
  intro user? log' hlog huser
  apply traces_found fun _ => .inr (hlog.postRows.trans hnothing)
  intro user hsome
  exact hQ user log' hlog (huser user hsome)

theorem traces_viewPost {row : PostRow} {post : Post} {Q : PostView → List Sent → Prop}
    (hpost : row.Carries post)
    (hQ : ∀ shown log', Onward action log log' → row.Shown log' shown → Q shown log') :
    Traces action Q (viewPost post) log := by
  apply Traces.bind
  apply traces_fetchUser
  intro user? log' hlog huser
  apply traces_view
  intro shown hrender
  exact hQ shown log' hlog (shown_of_render hpost huser hrender)

def Known.Received (log : List Sent) (known : Known) : Prop :=
  ∀ id user, known.lookup id = some (some user) → user.Received log

theorem received_nil (log : List Sent) : Known.Received log [] := fun _ _ => nofun

theorem Known.Received.cons {known : Known} {id : UserId} {user? : Option User}
    (h : known.Received log) (huser : ∀ user, user? = some user → user.Received log) :
    Known.Received log ((id, user?) :: known) := by
  intro other user hother
  rw [List.lookup_cons] at hother
  split at hother
  next => exact huser user (Option.some.inj hother)
  next => exact h other user hother

theorem Known.Received.mono {known : Known} (h : known.Received log) (hsub : log ⊆ log') :
    known.Received log' := fun id user huser => (h id user huser).mono hsub

theorem traces_learn {known : Known} {author : UserId} {Q : Known → List Sent → Prop}
    (hknown : known.Received log)
    (hQ : ∀ known log', Onward action log log' → known.Received log' → Q known log') :
    Traces action Q (learn known author) log := by
  unfold learn
  split
  · exact hQ known log (onward_refl log) hknown
  · apply Traces.bind
    apply traces_fetchUser
    intro user? log' hlog huser
    exact hQ _ log' hlog ((hknown.mono hlog.subset).cons huser)

theorem traces_viewPosts {rows : List PostRow} {posts : List Post}
    (hposts : List.Forall₂ PostRow.Carries rows posts) {known : Known} {log : List Sent}
    {Q : List PostView → List Sent → Prop} (hknown : known.Received log)
    (hQ : ∀ views log', Onward action log log' → List.Forall₂ (PostRow.Shown log') rows views →
      Q views log') : Traces action Q (viewPosts known posts) log := by
  induction hposts generalizing known log Q with
  | nil => exact hQ [] log (onward_refl log) .nil
  | cons hpost _ ih =>
    apply Traces.bind
    apply traces_learn hknown
    intro known log' hlog hknown
    apply Traces.bind
    apply traces_view
    intro shown hrender
    apply Traces.bind
    apply ih hknown
    intro views log'' hlog' hviews
    apply hQ _ _ (hlog.trans hlog')
    refine .cons (PostRow.Shown.mono (shown_of_render hpost ?_ hrender) hlog'.subset) hviews
    intro user huser
    exact hknown _ user (Option.join_eq_some_iff.1 huser)

theorem attributes_of_views {r : Response} {views : List PostView} (hviews : r.Presents views)
    (h : List.Forall₂ (PostRow.Shown log) (log.flatMap (·.postRows action)) views) :
    r.Attributes action log where
  shown _ := ⟨views, hviews, h⟩
  withheld row hrow hunnamed := by
    have hnamed := (List.forall₂_and_left _ _).1 <| h.imp fun row view hshown =>
      (⟨⟨view.authorName, hshown.named⟩, hshown⟩ : (∃ name, row.AuthorNamed log name) ∧ _)
    obtain ⟨name, hname⟩ := hnamed.1 row hrow
    exact absurd hname (hunnamed name)

theorem attributes_of_error {e : ServiceError} (h : Tolerated action e log) :
    (Response.ofError e).Attributes action log where
  shown hstatus := by
    have hmem : (Response.ofError e).status ∈ [Status.ok, .created] := by simpa using hstatus
    exact absurd hmem (status_of_error e)
  withheld row hrow _ := by
    obtain hinternal | hnothing := h
    · exact Response.ofError_internal hinternal
    · rw [hnothing] at hrow
      cases hrow

/-- Over a database that replies as it likes, posts are shown with their own authors. -/
def Faithful (action : Action) (h : Handler Response) (log : List Sent) : Prop :=
  Traces action (fun r log => r.Attributes action log) h log

theorem faithful_all {rows : List PostRow} {posts : List Post}
    (hrows : log.flatMap (·.postRows action) = rows)
    (hposts : List.Forall₂ PostRow.Carries rows posts) :
    Faithful action (viewPosts [] posts >>= fun views =>
      respond .ok (writeList? PostView.write? views)) log := by
  apply Traces.bind
  apply traces_viewPosts hposts (received_nil log)
  intro views log' hlog hviews
  apply traces_respond
  intro body hbody
  apply attributes_of_views (.all hbody)
  rw [hlog.postRows, hrows]
  exact hviews

theorem faithful_one {row : PostRow} {post : Post} (hrow : log.flatMap (·.postRows action) = [row])
    (hpost : row.Carries post) :
    Faithful action (viewPost post >>= fun shown => respond .ok shown.write?) log := by
  apply Traces.bind
  apply traces_viewPost hpost
  intro shown log' hlog hshown
  apply traces_respond
  intro body hbody
  apply attributes_of_views (.one hbody)
  rw [hlog.postRows, hrow]
  exact .cons hshown .nil

theorem faithful_listPosts : Faithful action listPosts [] := by
  apply Traces.bind
  apply traces_call (c := .listPosts)
  change Client.Traces action _ Client.listPosts []
  rw [Client.listPosts_eq]
  refine Client.traces_exchange (.inl fun _ => rfl) sound_readPosts ?_
  intro (rows : List PostRow) posts hread
  exact faithful_all (List.append_nil rows) ((decided_readPosts rows).holds hread)

theorem faithful_listUserPosts (id : UserId) : Faithful action (listUserPosts id) [] := by
  apply Traces.bind
  apply traces_call (c := .fetchUserPosts id)
  change Client.Traces action _ (Client.fetchUserPosts id) []
  rw [Client.fetchUserPosts_eq]
  apply Dialogue.Brings.bind
  refine Client.traces_exchange (.inl fun _ => rfl) Client.sound_readExists ?_
  intro (answer : List (Option Bool)) found hfound
  cases found with
  | false => exact Traces.bind (traces_found (fun _ => .inr rfl) fun _ => nofun)
  | true =>
    refine Client.traces_exchange (.inl fun _ => rfl)
      (fun rows => (sound_readPosts rows).map some) ?_
    intro (rows : List PostRow) posts? hread
    have hposts := decided_readPosts rows
    cases hpage : readPosts rows with
    | error e =>
      rw [hpage] at hread
      cases hread
    | ok posts =>
      rw [hpage] at hread hposts
      cases hread
      exact faithful_all (List.append_nil rows) hposts.of_ok.2

theorem faithful_createPost (payload : Json.Members) : Faithful action (createPost payload) [] := by
  apply Traces.bind
  apply traces_parse rfl
  intro new
  apply Traces.bind
  apply traces_resolveAuthor rfl
  intro author log hlog hauthor
  apply Traces.bind
  apply traces_call (c := .createPost new)
  change Client.Traces action _ (Client.createPost new) log
  rw [Client.createPost_eq]
  refine Client.traces_exchange (.inr hlog.postRows)
    (fun rows => (Client.sound_first rows).bind PostRow.sound_read) ?_
  intro (rows : List PostRow) post hread
  cases rows with
  | nil => cases hread
  | cons row rest =>
    have hpost := row.decided_read.holds hread
    apply Traces.bind
    apply traces_view
    intro shown hrender
    apply traces_respond
    intro body hbody
    apply attributes_of_views (.one hbody)
    rw [List.flatMap_append, hlog.postRows]
    refine .cons (shown_of_render hpost ?_ hrender) .nil
    rintro user ⟨⟩
    exact hauthor.mono (List.subset_append_left _ _)

theorem faithful_getPost (id : PostId) : Faithful .retrieve (getPost id) [] := by
  apply Traces.bind
  apply traces_call (c := .fetchPost id)
  change Client.Traces .retrieve _ (Client.fetchPost id) []
  rw [Client.fetchPost_eq]
  refine Client.traces_exchange (.inl fun _ => rfl) (sound_head? PostRow.sound_read) ?_
  intro (rows : List PostRow) post? hread
  apply Traces.bind
  obtain ⟨rfl, rfl⟩ | ⟨row, rest, post, rfl, rfl, hpost⟩ := head?_ok hread
  · exact .inr rfl
  · exact faithful_one rfl (row.decided_read.holds hpost)

theorem faithful_revisePost {id : PostId} {changes : PostChanges}
    (hnothing : log.flatMap (·.postRows action) = []) :
    Faithful action (do
      let post : Post ← found (.postNotFound id) (← call (.updatePost id changes))
      respond .ok (← viewPost post).write?) log := by
  apply Traces.bind
  apply traces_call (c := .updatePost id changes)
  change Client.Traces action _ (Client.updatePost id changes) log
  rw [Client.updatePost_eq]
  refine Client.traces_exchange (.inr hnothing) (sound_head? PostRow.sound_read) ?_
  intro (rows : List PostRow) post? hread
  apply Traces.bind
  obtain ⟨rfl, rfl⟩ | ⟨row, rest, post, rfl, rfl, hpost⟩ := head?_ok hread
  · right
    rw [List.flatMap_append, hnothing]
    rfl
  · refine faithful_one ?_ (row.decided_read.holds hpost)
    rw [List.flatMap_append, hnothing]
    rfl

theorem faithful_updatePost (haction : action ≠ .retrieve) (mode : Intent) (id : PostId)
    (payload : Json.Members) : Faithful action (updatePost mode id payload) [] := by
  apply Traces.bind
  apply traces_call (c := .fetchPost id)
  change Client.Traces action _ (Client.fetchPost id) []
  rw [Client.fetchPost_eq]
  refine Client.traces_exchange (.inl fun _ => rfl) (sound_head? PostRow.sound_read) ?_
  intro (rows : List PostRow) post? hread
  have hnothing :
      ([⟨.fetchPost id.toRow, .ok rows⟩] : List Sent).flatMap (·.postRows action) = [] := by
    simp [Sent.postRows, haction]
  apply Traces.bind
  apply Traces.discard
  apply traces_found fun _ => .inr hnothing
  intro _ _
  apply Traces.bind
  apply traces_parse hnothing
  intro changes
  cases hauthor : changes.author with
  | none => exact faithful_revisePost hnothing
  | some author =>
    apply Traces.bind
    apply Traces.discard
    apply traces_resolveAuthor hnothing
    intro user log hlog _
    exact faithful_revisePost (hlog.postRows.trans hnothing)

def FaithfulFor (action? : Option (Resource × Action)) (h : Handler Response) : Prop :=
  ∀ resource action exchange, action? = some (resource, action) →
    Action.views? resource action = some exchange → exchange.output = some .post →
    Faithful action h []

theorem faithful_handle (request : Request) :
    FaithfulFor request.action? (Service.handle request) := by
  have heach : EachFor FaithfulFor :=
    { listUsers := by rintro _ _ _ ⟨⟩ ⟨⟩ ⟨⟩
      createUser := by rintro payload _ _ _ ⟨⟩ ⟨⟩ ⟨⟩
      getUser := by rintro id _ _ _ ⟨⟩ ⟨⟩ ⟨⟩
      updateUser := by rintro (_ | _ | _) id payload _ _ _ ⟨⟩ ⟨⟩ ⟨⟩
      deleteUser := by rintro id _ _ _ ⟨⟩ ⟨⟩ ⟨⟩
      listUserPosts := fun id _ _ _ _ _ _ => faithful_listUserPosts id
      listPosts := fun _ _ _ _ _ _ => faithful_listPosts
      createPost := fun payload _ _ _ _ _ _ => faithful_createPost payload
      getPost := by
        rintro id _ _ _ ⟨⟩ - -
        exact faithful_getPost id
      updatePost := by
        rintro mode id payload _ _ _ ⟨⟩ - -
        exact faithful_updatePost (by cases mode <;> nofun) mode id payload
      deletePost := by rintro id _ _ _ ⟨⟩ ⟨⟩ ⟨⟩
      notAllowed := fun _ route _ _ _ _ _ _ => ⟨by rintro (⟨⟨⟩⟩ | ⟨⟨⟩⟩), by nofun⟩
      rejected := fun _ _ _ _ _ _ _ _ _ _ => .inr rfl }
  exact heach.handle request

end Handler

namespace Service

/-- Whatever a database replies to a request that shows posts, no post is shown with the name of
anyone but its author. -/
theorem posts_attributed (request : Request) (action : Action) (hshows : request.ShowsPosts action)
    (hmethod : request.method ≠ "HEAD") (σ : Type) (reply : (s : Statement) → σ → s.Reply × σ)
    (state : σ) : (Client.outcome reply state (respond request)).Attributes action
      (Client.sent reply state (respond request)) := by
  obtain ⟨resource, exchange, haction, hviews, houtput⟩ := hshows
  have h : (Client.overDatabase (respond request)).Yields
      (fun r log => Response.Attributes action log r) [] := by
    rw [Client.overDatabase, respond, Dialogue.expand_bind]
    apply Dialogue.Yields.bind
    refine Dialogue.Yields.imp ?_
      (Handler.faithful_handle request resource action exchange haction hviews houtput)
    intro outcome log houtcome
    rw [trimmed, if_neg hmethod]
    cases outcome with
    | ok r => exact houtcome
    | error e => exact Handler.attributes_of_error houtcome
  exact h.of_run reply state

theorem posts_attributed_to_ada :
    let get : Request := { method := "GET", uri := { path := "/posts/7" } }
    let row : PostRow :=
      ⟨some 7, some "Notes", some "On engines", some 1, some true, some 0, some 0⟩
    let ada (n : Int64) : UserRow := ⟨some n, some "ada@example.com", some "Ada", some "King",
      some true, some 0, some 0⟩
    let reply (n : Int64) (s : Statement) (state : Unit) : s.Reply × Unit := match s with
      | .fetchPost _ => (.ok [row], state)
      | .fetchUser _ => (.ok [ada n], state)
      | _ => (.error ⟨"42P01", "relation does not exist", none⟩, state)
    get.ShowsPosts .retrieve ∧ get.method ≠ "HEAD" ∧
    (∃ views, (Client.outcome (reply 1) () (respond get)).Presents views ∧
      List.Forall₂ (PostRow.Shown (Client.sent (reply 1) () (respond get))) [row] views) ∧
    Client.outcome (reply 2) () (respond get) = .internalFault := by
  intro get row ada reply
  have hshows : get.ShowsPosts .retrieve :=
    ⟨.posts, ⟨none, some .post⟩, by decide +kernel, rfl, rfl⟩
  have hmethod : get.method ≠ "HEAD" := by decide
  have hrows (n : Int64) (hn : n = 1 ∨ n = 2) :
      (Client.sent (reply n) () (respond get)).flatMap (·.postRows .retrieve) = [row] := by
    rcases hn with rfl | rfl <;> decide +kernel
  have hstatus : (Client.outcome (reply 1) () (respond get)).status = .ok := by decide +kernel
  have hfound : (Client.sent (reply 2) () (respond get)).flatMap Sent.userRows = [ada 2] := by
    decide +kernel
  refine ⟨hshows, hmethod, ?_, ?_⟩
  · have hshown :=
      (posts_attributed get .retrieve hshows hmethod Unit (reply 1) ()).shown (.inl hstatus)
    rw [hrows 1 (.inl rfl)] at hshown
    exact hshown
  · apply (posts_attributed get .retrieve hshows hmethod Unit (reply 2) ()).withheld row
    · rw [hrows 2 (.inr rfl)]
      exact List.mem_cons_self
    · rintro name ⟨_, ⟨⟩, x, hx, author, hauthor, hid, -⟩
      have hmem : author ∈ [ada 2] := hfound ▸ List.mem_flatMap.2 ⟨x, hx, hauthor⟩
      rw [List.mem_singleton.1 hmem] at hid
      exact absurd hid (by decide)

end Service

end Bulletin
