import Bulletin.Proofs.Service.Unchanged
import Bulletin.Proofs.View.Grouped
import Bulletin.Proofs.View.Judged
import Bulletin.Service.Reported
import Bulletin.Store.Fault

namespace Bulletin

variable {α β : Type}

namespace FieldErrors

theorem substantial_single (field message : String) : (single field message).Substantial where
  fields := nofun
  messages entry hentry := by
    rw [List.mem_singleton.1 hentry]
    exact nofun

end FieldErrors

def ServiceError.Sound (e : ServiceError) : Prop := ∀ errors ∈ e.fields?, errors.Substantial

theorem ServiceError.sound_ofStore (e : StoreError) : (ofStore e).Sound := by
  cases e with
  | emailTaken => rintro _ ⟨⟩; exact FieldErrors.substantial_single _ _
  | unknownAuthor => rintro _ ⟨⟩; exact FieldErrors.substantial_single _ _
  | data | database => exact nofun

theorem ServiceError.sound_of_internal {e : ServiceError} (h : e.status = .internalError) :
    e.Sound := by
  cases e with
  | validation => cases h
  | _ => exact nofun

theorem Status.toNat_code (status : Status) : status.code.toUInt64.toNat = status.code := by
  cases status <;> rfl

theorem Response.reports_ofError {e : ServiceError} (h : e.Sound) : (ofError e).Reports e where
  status := rfl
  contentType := rfl
  fields := h
  body := by
    refine ⟨[("status", .number (.natural e.status.code.toUInt64)),
      ("message", .text e.publicMessage)] ++
        e.fields?.toList.map fun errors => ("fields", errors.toJson), ?_, ?_⟩
    · have hstatus := Json.spelled_natural (Json.maxDepth - 1) e.status.code.toUInt64
      rw [Status.toNat_code] at hstatus
      apply Json.readObject_written
      apply Json.Members.Spelled.cons hstatus
      apply Json.Members.Spelled.cons (Json.spelled_text _ _)
      cases e.fields? with
      | none => exact .nil
      | some errors =>
        exact .cons (Json.spelled_object (FieldErrors.spelled_entries _ errors.entries)) .nil
    · cases e.fields? <;> exact ⟨rfl, rfl, rfl⟩

theorem Response.ofError_internal {e : ServiceError} (h : e.status = .internalError) :
    ofError e = internalFault := by
  have hfault : Response.json .internalError (Json.Write.object [("status", Json.Write.natural 500),
      ("message", Json.Write.text "Internal Server Error")]) = internalFault := by
    decide +kernel
  rw [← hfault]
  cases e <;> first | rfl | cases h

section Forms

variable {result : Except FieldErrors α} {missing : Prop} {value? : Option α}
variable {errors : FieldErrors} {fields : List (String × Option String)}

theorem Judged.substantial (h : Judged result (offences fields) missing value?)
    (herror : result = .error errors) : errors.Substantial := by
  subst herror
  by_cases hnil : offences fields = []
  · by_cases hmissing : missing
    · cases h.incomplete hnil hmissing
      exact FieldErrors.substantial_single "non_field_errors" "Invalid data."
    · obtain ⟨a, -, hok⟩ := h.accepted hnil hmissing
      cases hok
  · cases h.offended hnil
    refine ⟨hnil, fun entry hentry => ?_⟩
    obtain ⟨field, -, hfield⟩ := List.mem_filterMap.1 hentry
    obtain ⟨message, -, rfl⟩ := Option.map_eq_some_iff.1 hfield
    exact nofun

end Forms

abbrev Asked := List ((c : Call) × c.Reply)

def Call.creates : Call → Bool
  | .createUser _ | .createPost _ => true
  | _ => false

structure Quiet (log : Asked) : Prop where
  users : (History.ofRecord log).createdUsers = []
  posts : (History.ofRecord log).createdPosts = []

section Quiet

variable {log : Asked} {c : Call} {reply : c.Reply}

theorem quiet_nil : Quiet [] := ⟨rfl, rfl⟩

theorem Quiet.concat (h : Quiet log) (huser : Event.createdUser? ⟨c, reply⟩ = none)
    (hpost : Event.createdPost? ⟨c, reply⟩ = none) : Quiet (log ++ [⟨c, reply⟩]) := by
  have hnone {β : Type} {created? : Event → Option β}
      (hold : (History.ofRecord log).filterMap created? = [])
      (hnew : created? ⟨c, reply⟩ = none) :
      (History.ofRecord (log ++ [⟨c, reply⟩])).filterMap created? = [] := by
    rw [History.ofRecord, List.map_append, List.filterMap_append, ← History.ofRecord, hold]
    simp [hnew]
  exact ⟨hnone h.users huser, hnone h.posts hpost⟩

theorem Quiet.error (h : Quiet log) (c : Call) (e : StoreError) :
    Quiet (log ++ [⟨c, .error e⟩]) := by
  apply h.concat <;> cases c <;> rfl

theorem Quiet.other (h : Quiet log) (hc : c.creates = false) : Quiet (log ++ [⟨c, reply⟩]) := by
  apply h.concat <;> cases c <;> first | rfl | cases hc

end Quiet

section Outcomes

variable {action : Option (Resource × Action)} {log : Asked} {e : ServiceError} {body : Bytes}
variable {user author : User} {post : Post} {id : UserId}

/-- Nothing that was created can be shown, and the error does not blame the client for it. -/
structure Lost (log : Asked) (e : ServiceError) : Prop where
  sound : e.Sound
  users : ∀ user ∈ (History.ofRecord log).createdUsers,
    user.write? = none ∧ e.status = .internalError
  posts : ∀ post ∈ (History.ofRecord log).createdPosts, ∃ id author,
    ⟨.fetchUser id, .ok (some author)⟩ ∈ History.ofRecord log ∧
      post.shownBy author = none ∧ e.status = .internalError

structure Made (action : Option (Resource × Action)) (log : Asked) (body : Bytes) : Prop where
  something : (action = some (.users, .create) ∧ (History.ofRecord log).createdUsers ≠ []) ∨
    (action = some (.posts, .create) ∧ (History.ofRecord log).createdPosts ≠ [])
  users : ∀ user ∈ (History.ofRecord log).createdUsers, user.write? = some body
  posts : ∀ post ∈ (History.ofRecord log).createdPosts, ∃ id author,
    ⟨.fetchUser id, .ok (some author)⟩ ∈ History.ofRecord log ∧ post.shownBy author = some body

theorem Quiet.lost (h : Quiet log) (he : e.Sound) : Lost log e where
  sound := he
  users := by
    rw [h.users]
    exact List.forall_mem_nil _
  posts := by
    rw [h.posts]
    exact List.forall_mem_nil _

section User

variable (husers : (History.ofRecord log).createdUsers = [user])
variable (hposts : (History.ofRecord log).createdPosts = [])
include husers hposts

theorem lost_user (hwrite : user.write? = none) (he : e.status = .internalError) : Lost log e where
  sound := ServiceError.sound_of_internal he
  users := by
    rw [husers]
    exact List.forall_mem_singleton.2 ⟨hwrite, he⟩
  posts := by
    rw [hposts]
    exact List.forall_mem_nil _

theorem made_user (hwrite : user.write? = some body) :
    Made (some (.users, .create)) log body where
  something := .inl ⟨rfl, by simp [husers]⟩
  users := by
    rw [husers]
    exact List.forall_mem_singleton.2 hwrite
  posts := by
    rw [hposts]
    exact List.forall_mem_nil _

end User

section Post

variable (husers : (History.ofRecord log).createdUsers = [])
variable (hposts : (History.ofRecord log).createdPosts = [post])
variable (hauthor : ⟨.fetchUser id, .ok (some author)⟩ ∈ History.ofRecord log)
include husers hposts hauthor

theorem lost_post (hshown : post.shownBy author = none) (he : e.status = .internalError) :
    Lost log e where
  sound := ServiceError.sound_of_internal he
  users := by
    rw [husers]
    exact List.forall_mem_nil _
  posts := by
    rw [hposts]
    exact List.forall_mem_singleton.2 ⟨id, author, hauthor, hshown, he⟩

theorem made_post (hshown : post.shownBy author = some body) :
    Made (some (.posts, .create)) log body where
  something := .inr ⟨rfl, by simp [hposts]⟩
  users := by
    rw [husers]
    exact List.forall_mem_nil _
  posts := by
    rw [hposts]
    exact List.forall_mem_singleton.2 ⟨id, author, hauthor, hshown⟩

end Post

inductive Accounted (action : Option (Resource × Action)) : Response → Asked → Prop
  | shown {r : Response} {log : Asked} : r.status ∈ [Status.ok, .noContent, .methodNotAllowed] →
    Quiet log → Accounted action r log
  | created {body : Bytes} {log : Asked} : Made action log body →
    Accounted action (.json .created body) log

end Outcomes

namespace Handler

variable {action : Option (Resource × Action)} {log : Asked}

def OrLost (Q : α → Asked → Prop) : Except ServiceError α → Asked → Prop
  | .ok a, log => Q a log
  | .error e, log => Lost log e

/-- The handler succeeds with what is asked for, or it fails as it may. -/
def Ends (Q : α → Asked → Prop) (h : Handler α) (log : Asked) : Prop := h.run.Yields (OrLost Q) log

section Ends

variable {Q : α → Asked → Prop}

theorem Ends.bind {h : Handler α} {f : α → Handler β} {R : β → Asked → Prop}
    (hh : Ends (fun a log => Ends R (f a) log) h log) : Ends R (h >>= f) log := by
  apply Dialogue.Yields.bind
  apply Dialogue.Yields.imp _ hh
  intro outcome log houtcome
  cases outcome <;> exact houtcome

theorem Ends.discard {h : Handler α} {R : Unit → Asked → Prop}
    (hh : Ends (fun _ log => R () log) h log) : Ends R (discard h) log :=
  Ends.bind hh

theorem ends_call {c : Call} {Q : c.Result → Asked → Prop} (h : Quiet log)
    (hQ : ∀ result, Q result (log ++ [⟨c, .ok result⟩])) : Ends Q (call c) log := by
  intro reply
  cases reply with
  | ok result => exact hQ result
  | error e => exact (h.error c e).lost (ServiceError.sound_ofStore e)

theorem ends_other {c : Call} {Q : c.Result → Asked → Prop} (h : Quiet log)
    (hc : c.creates = false) (hQ : ∀ result log, Quiet log → Q result log) :
    Ends Q (call c) log :=
  ends_call h fun result => hQ result _ (h.other hc)

theorem ends_fetchUser {id : UserId} {Q : Option User → Asked → Prop} (h : Quiet log)
    (hQ : ∀ user? log, Quiet log → Q user? log) : Ends Q (fetchUser id) log :=
  ends_other (c := .fetchUser id) h rfl hQ

section Quiet

variable (h : Quiet log)
include h

theorem ends_found {e : ServiceError} {a? : Option α} (he : e.Sound) (hQ : ∀ a, Q a log) :
    Ends Q (found e a?) log := by
  cases a? with
  | none => exact h.lost he
  | some a => exact hQ a

theorem ends_parse {form : Form α} {mode : Intent} {payload : Json.Members}
    (hform : ∀ errors, form.parse mode payload = .error errors → errors.Substantial)
    (hQ : ∀ a, Q a log) : Ends Q (parse form mode payload) log := by
  unfold parse
  cases hparse : form.parse mode payload with
  | error errors =>
    apply h.lost
    rintro _ ⟨⟩
    exact hform errors hparse
  | ok a => exact hQ a

theorem ends_view {post : Post} {user? : Option User} {Q : PostView → Asked → Prop}
    (hQ : ∀ shown, Q shown log) : Ends Q (view post user?) log := by
  unfold view
  cases PostView.render post user? with
  | ok shown => exact hQ shown
  | error d => exact h.lost nofun

theorem ends_respond {body : Option Bytes} :
    Ends (Accounted action) (respond .ok body) log := by
  cases body with
  | none => exact h.lost nofun
  | some body => exact .shown List.mem_cons_self h

theorem ends_viewPost {post : Post} {Q : PostView → Asked → Prop}
    (hQ : ∀ shown log, Quiet log → Q shown log) : Ends Q (viewPost post) log := by
  apply Ends.bind
  apply ends_fetchUser h
  intro user? log h
  exact ends_view h fun shown => hQ shown log h

theorem ends_learn {known : Known} {author : UserId} {Q : Known → Asked → Prop}
    (hQ : ∀ known log, Quiet log → Q known log) : Ends Q (learn known author) log := by
  unfold learn
  split
  · exact hQ known log h
  · apply Ends.bind
    apply ends_fetchUser h
    intro user? log h
    exact hQ _ log h

omit h in
theorem ends_viewPosts {posts : List Post} {known : Known} {log : Asked}
    {Q : List PostView → Asked → Prop} (h : Quiet log)
    (hQ : ∀ views log, Quiet log → Q views log) : Ends Q (viewPosts known posts) log := by
  induction posts generalizing known log Q with
  | nil => exact hQ [] log h
  | cons post posts ih =>
    apply Ends.bind
    apply ends_learn h
    intro known log h
    apply Ends.bind
    apply ends_view h
    intro shown
    apply Ends.bind
    apply ih h
    intro views log h
    exact hQ _ log h

theorem ends_resolveAuthor {id : UserId} {Q : User → Asked → Prop}
    (hQ : ∀ author, Q author (log ++ [⟨.fetchUser id, .ok (some author)⟩])) :
    Ends Q (resolveAuthor id) log := by
  apply Ends.bind
  apply ends_call (c := .fetchUser id) h
  intro user?
  cases user? with
  | none =>
    apply (h.other rfl).lost
    rintro _ ⟨⟩
    exact FieldErrors.substantial_single _ _
  | some author => exact hQ author

end Quiet

end Ends

def Accounts (action : Option (Resource × Action)) (h : Handler Response) : Prop :=
  Ends (Accounted action) h []

theorem accounts_listUsers : Accounts action listUsers := by
  apply Ends.bind
  apply ends_other (c := .listUsers) quiet_nil rfl
  intro users log h
  exact ends_respond h

theorem accounts_createUser (payload : Json.Members) :
    Accounts (some (.users, .create)) (createUser payload) := by
  apply Ends.bind
  apply ends_parse quiet_nil fun _ h => (judged_newUser .create payload).substantial h
  intro new
  apply Ends.bind
  apply ends_call (c := .createUser new) quiet_nil
  intro user
  cases hwrite : User.write? user with
  | none => exact lost_user rfl rfl hwrite rfl
  | some body => exact .created (made_user rfl rfl hwrite)

theorem accounts_getUser (id : UserId) : Accounts action (getUser id) := by
  apply Ends.bind
  apply ends_fetchUser quiet_nil
  intro user? log h
  apply Ends.bind
  refine ends_found h nofun ?_
  intro user
  exact ends_respond h

theorem accounts_updateUser (mode : Intent) (id : UserId) (payload : Json.Members) :
    Accounts action (updateUser mode id payload) := by
  apply Ends.bind
  apply ends_fetchUser quiet_nil
  intro user? log h
  apply Ends.bind
  apply Ends.discard
  refine ends_found h nofun ?_
  intro _
  apply Ends.bind
  apply ends_parse h fun _ h => (judged_userChanges mode payload).substantial h
  intro changes
  apply Ends.bind
  apply ends_other (c := .updateUser id changes) h rfl
  intro user? log h
  apply Ends.bind
  refine ends_found h nofun ?_
  intro user
  exact ends_respond h

theorem ends_removed {missing : ServiceError} {deleted : Bool} {log : Asked} (h : Quiet log)
    (hmissing : missing.fields? = none) :
    Ends (Accounted action) (removed missing deleted) log := by
  cases deleted with
  | true => exact .shown (by decide) h
  | false => exact h.lost (by rw [ServiceError.Sound, hmissing]; nofun)

theorem accounts_listUserPosts (id : UserId) : Accounts action (listUserPosts id) := by
  apply Ends.bind
  apply ends_other (c := .fetchUserPosts id) quiet_nil rfl
  intro posts? log h
  apply Ends.bind
  refine ends_found h nofun ?_
  intro posts
  apply Ends.bind
  apply ends_viewPosts h
  intro views log h
  exact ends_respond h

theorem accounts_listPosts : Accounts action listPosts := by
  apply Ends.bind
  apply ends_other (c := .listPosts) quiet_nil rfl
  intro posts log h
  apply Ends.bind
  apply ends_viewPosts h
  intro views log h
  exact ends_respond h

theorem ends_created {post : Post} {id : UserId} {author : User}
    (husers : (History.ofRecord log).createdUsers = [])
    (hposts : (History.ofRecord log).createdPosts = [post])
    (hauthor : ⟨.fetchUser id, .ok (some author)⟩ ∈ History.ofRecord log) :
    Ends (Accounted (some (.posts, .create))) (do
      respond .created (← view post (some author)).write?) log := by
  apply Ends.bind
  unfold view
  cases hrender : PostView.render post (some author) with
  | error d =>
    have hshown : post.shownBy author = none := by simp [Post.shownBy, hrender, Except.toOption]
    exact lost_post husers hposts hauthor hshown rfl
  | ok shown =>
    have hshown : post.shownBy author = shown.write? := by
      simp [Post.shownBy, hrender, Except.toOption]
    show Ends _ (respond .created shown.write?) log
    unfold respond
    cases hwrite : shown.write? with
    | none => exact lost_post husers hposts hauthor (hshown.trans hwrite) rfl
    | some body => exact Accounted.created (made_post husers hposts hauthor (hshown.trans hwrite))

theorem accounts_createPost (payload : Json.Members) :
    Accounts (some (.posts, .create)) (createPost payload) := by
  apply Ends.bind
  apply ends_parse quiet_nil fun _ h => (judged_newPost .create payload).substantial h
  intro new
  apply Ends.bind
  apply ends_resolveAuthor quiet_nil
  intro author
  apply Ends.bind
  apply ends_call (c := .createPost new) (quiet_nil.other rfl)
  intro post
  exact ends_created rfl rfl List.mem_cons_self

theorem accounts_getPost (id : PostId) : Accounts action (getPost id) := by
  apply Ends.bind
  apply ends_other (c := .fetchPost id) quiet_nil rfl
  intro post? log h
  apply Ends.bind
  refine ends_found h nofun ?_
  intro post
  apply Ends.bind
  apply ends_viewPost h
  intro shown log h
  exact ends_respond h

theorem ends_revisePost {id : PostId} {changes : PostChanges} (h : Quiet log) :
    Ends (Accounted action) (do
      let post : Post ← found (.postNotFound id) (← call (.updatePost id changes))
      respond .ok (← viewPost post).write?) log := by
  apply Ends.bind
  apply ends_other (c := .updatePost id changes) h rfl
  intro post? log h
  apply Ends.bind
  refine ends_found h nofun ?_
  intro post
  apply Ends.bind
  apply ends_viewPost h
  intro shown log h
  exact ends_respond h

theorem accounts_updatePost (mode : Intent) (id : PostId) (payload : Json.Members) :
    Accounts action (updatePost mode id payload) := by
  apply Ends.bind
  apply ends_other (c := .fetchPost id) quiet_nil rfl
  intro post? log h
  apply Ends.bind
  apply Ends.discard
  refine ends_found h nofun ?_
  intro _
  apply Ends.bind
  apply ends_parse h fun _ h => (judged_postChanges mode payload).substantial h
  intro changes
  cases hauthor : changes.author with
  | none => exact ends_revisePost h
  | some author =>
    apply Ends.bind
    apply Ends.discard
    apply ends_resolveAuthor h
    intro user
    exact ends_revisePost (h.other rfl)

theorem accounts_handle (request : Request) :
    Accounts request.action? (Service.handle request) := by
  have heach : EachFor Accounts :=
    { listUsers := accounts_listUsers
      createUser := accounts_createUser
      getUser := accounts_getUser
      updateUser := fun mode => accounts_updateUser mode
      deleteUser := fun id => Ends.bind (ends_other (c := .deleteUser id) quiet_nil rfl
        fun _ _ h => ends_removed h rfl)
      listUserPosts := accounts_listUserPosts
      listPosts := accounts_listPosts
      createPost := accounts_createPost
      getPost := accounts_getPost
      updatePost := fun mode => accounts_updatePost mode
      deletePost := fun id => Ends.bind (ends_other (c := .deletePost id) quiet_nil rfl
        fun _ _ h => ends_removed h rfl)
      notAllowed := fun _ _ => .shown (show Status.methodNotAllowed ∈ _ by decide) quiet_nil
      rejected := fun _ e _ hfields => quiet_nil.lost (by rw [ServiceError.Sound, hfields]; nofun) }
  exact heach.handle request

end Handler

namespace Service

open Handler Sql

section Store

variable {σ : Type} {step : (c : Call) → σ → c.Reply × σ} {s : σ} {request : Request}

theorem accountable_of_error {e : ServiceError} (houtcome : outcome step s request = .error e)
    (h : Lost ((handle request).run.record step s) e) :
    Accountable step s request (.ofError e) where
  error _ _ := ⟨e, houtcome, Response.reports_ofError h.sound⟩
  fault hstatus := Response.ofError_internal hstatus
  created hstatus := by cases e <;> cases hstatus
  ofUser user huser := by
    obtain ⟨hnone, hstatus⟩ := h.users user huser
    rw [hnone, Response.ofError_internal hstatus]
    rfl
  ofPost post hpost := by
    obtain ⟨id, author, hauthor, hnone, hstatus⟩ := h.posts post hpost
    refine ⟨id, author, hauthor, ?_⟩
    rw [hnone, Response.ofError_internal hstatus]
    rfl

theorem accountable_of_shown {r : Response} (hr : r.status ∈ [.ok, .noContent, .methodNotAllowed])
    (h : Quiet ((handle request).run.record step s)) : Accountable step s request r where
  error herror hallowed := by
    exfalso
    generalize r.status = status at hr herror hallowed
    cases status <;> revert hr herror hallowed <;> decide
  fault hstatus := by
    rw [hstatus] at hr
    exact absurd hr (by decide)
  created hstatus := by
    rw [hstatus] at hr
    exact absurd hr (by decide)
  ofUser := by
    rw [history, h.users]
    exact List.forall_mem_nil _
  ofPost := by
    rw [history, h.posts]
    exact List.forall_mem_nil _

theorem accountable_of_made {body : Bytes}
    (h : Made request.action? ((handle request).run.record step s) body) :
    Accountable step s request (.json .created body) where
  error herror := absurd herror (by decide : ¬400 ≤ Status.created.code)
  fault := nofun
  created _ := by
    obtain ⟨haction, hsome⟩ | ⟨haction, hsome⟩ := h.something
    · obtain ⟨user, huser⟩ := List.exists_mem_of_ne_nil _ hsome
      exact .inl ⟨haction, user, huser, h.users user huser⟩
    · obtain ⟨post, hpost⟩ := List.exists_mem_of_ne_nil _ hsome
      obtain ⟨id, author, -, hshown⟩ := h.posts post hpost
      exact .inr ⟨haction, post, hpost, author, hshown⟩
  ofUser user huser := by
    rw [h.users user huser]
    rfl
  ofPost post hpost := by
    obtain ⟨id, author, hauthor, hshown⟩ := h.posts post hpost
    refine ⟨id, author, hauthor, ?_⟩
    rw [hshown]
    rfl

theorem accountable_ofOutcome (step : (c : Call) → σ → c.Reply × σ) (s : σ) (request : Request) :
    Accountable step s request (ofOutcome (outcome step s request)) := by
  have h : OrLost (Accounted request.action?) (outcome step s request)
      ((handle request).run.record step s) := (accounts_handle request).of_run step s
  cases houtcome : outcome step s request with
  | error e =>
    rw [houtcome] at h
    exact accountable_of_error houtcome h
  | ok r =>
    rw [houtcome] at h
    cases h with
    | shown hr hquiet => exact accountable_of_shown hr hquiet
    | created hmade => exact accountable_of_made hmade

end Store

/-- Over a store that replies as it likes, as one in memory with any faults does, and over a database
that replies as it likes, every error is reported in one shape, errors of the service itself by one
response, and a creation only with what the store replied that it created. -/
theorem accountable_over_any_store (request : Request) (hmethod : request.method ≠ "HEAD") :
    (∀ (σ : Type) (step : (c : Call) → σ → c.Reply × σ) (s : σ),
      Accountable step s request ((respond request).run step s).1) ∧
    ∀ (σ : Type) (reply : (s : Statement) → σ → s.Reply × σ) (state : σ),
      Accountable (Client.answering reply) state request
        (Client.outcome reply state (respond request)) := by
  have hstore (σ : Type) (step : (c : Call) → σ → c.Reply × σ) (s : σ) :
      Accountable step s request ((respond request).run step s).1 := by
    rw [respond, Dialogue.run_bind]
    rw [Dialogue.run, trimmed, if_neg hmethod]
    exact accountable_ofOutcome step s request
  refine ⟨hstore, fun σ reply state => ?_⟩
  rw [Client.outcome, Client.overDatabase, Dialogue.run_expand_eq]
  exact hstore σ (Client.answering reply) state

theorem accountable_before_years :
    let step := Memory.execFaulty (fun _ => none) Memory.beforeYears
    let reply (s : Statement) (state : Unit) : s.Reply × Unit :=
      (.error ⟨"23505", "duplicate key value", some Client.emailKey⟩, state)
    Memory.newAda.method ≠ "HEAD" ∧
    (history step {} Memory.newAda).createdUsers.length = 1 ∧
    ((respond Memory.newAda).run step {}).1 = .internalFault ∧
    (Client.outcome reply () (respond Memory.newAda)).status = .badRequest ∧
    ∃ e, outcome (Client.answering reply) () Memory.newAda = .error e ∧
      (Client.outcome reply () (respond Memory.newAda)).Reports e := by
  intro step reply
  have hmethod : Memory.newAda.method ≠ "HEAD" := by decide
  obtain ⟨hstore, hdatabase⟩ := accountable_over_any_store Memory.newAda hmethod
  have hcreated : (history step {} Memory.newAda).createdUsers.length = 1 := by decide +kernel
  have hfault : ((respond Memory.newAda).run step {}).1.status = .internalError := by
    decide +kernel
  have hstatus : (Client.outcome reply () (respond Memory.newAda)).status = .badRequest := by
    decide +kernel
  refine ⟨hmethod, hcreated, (hstore Memory step {}).fault hfault, hstatus, ?_⟩
  apply (hdatabase Unit reply ()).error
  · rw [hstatus]
    decide
  · rw [hstatus]
    decide

end Service

end Bulletin
