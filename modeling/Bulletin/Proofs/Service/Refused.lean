import Bulletin.Proofs.Service.Received
import Bulletin.Proofs.Service.Unchanged
import Bulletin.Proofs.Sql.Refused

namespace Bulletin

open Sql

variable {α β σ : Type}

namespace Handler

def Stops : Dialogue Call Call.Reply (Except ServiceError α) → Prop
  | .done _ => True
  | .ask _ next =>
    (∀ e, next (.error e) = .done (.error (.ofStore e))) ∧ ∀ result, Stops (next (.ok result))

theorem Stops.error_of_mem {d : Dialogue Call Call.Reply (Except ServiceError α)} (hd : Stops d)
    {step : (c : Call) → σ → c.Reply × σ} {s : σ} {c : Call} {e : StoreError}
    (h : ⟨c, .error e⟩ ∈ d.record step s) : (d.run step s).1 = .error (.ofStore e) := by
  induction d generalizing s with
  | done outcome => cases h
  | ask q next ih =>
    rw [Dialogue.record] at h
    rw [Dialogue.run]
    cases hstep : step q s with
    | mk reply later =>
      rw [hstep] at h
      cases reply with
      | ok result =>
        obtain heq | hmem := List.mem_cons.1 h
        · cases heq
        · exact ih _ (hd.2 result) hmem
      | error e' =>
        dsimp only at h ⊢
        rw [hd.1 e'] at h ⊢
        cases List.mem_singleton.1 h
        rfl

def Strict (h : Handler α) : Prop := Stops h.run

theorem strict_pure (a : α) : Strict (pure a) := trivial

theorem strict_throw (e : ServiceError) : Strict (throw e : Handler α) := trivial

theorem strict_call (c : Call) : Strict (call c) := ⟨fun _ => rfl, fun _ => trivial⟩

theorem strict_parse (form : Form α) (mode : Intent) (payload : Json.Members) :
    Strict (parse form mode payload) := trivial

theorem strict_view (post : Post) (author : Option User) : Strict (view post author) := trivial

theorem strict_found (e : ServiceError) (a? : Option α) : Strict (found e a?) := by
  cases a? <;> trivial

theorem strict_respond (status : Status) (body : Option Bytes) : Strict (respond status body) := by
  cases body <;> trivial

theorem Strict.bind {h : Handler α} {f : α → Handler β} (hh : Strict h) (hf : ∀ a, Strict (f a)) :
    Strict (h >>= f) := by
  change Stops (Dialogue.bind (ExceptT.run h) (ExceptT.bindCont f))
  unfold Strict at hh
  generalize h.run = d at hh
  induction d with
  | done outcome => cases outcome with
    | ok a => exact hf a
    | error e => trivial
  | ask c next ih =>
    refine ⟨fun e => ?_, fun result => ih (.ok result) (hh.2 result)⟩
    dsimp only
    rw [hh.1 e]
    rfl

theorem Strict.discard {h : Handler α} (hh : Strict h) : Strict (discard h) :=
  hh.bind fun _ => strict_pure ()

theorem strict_fetchUser (id : UserId) : Strict (fetchUser id) := strict_call (.fetchUser id)

theorem strict_resolveAuthor (author : UserId) : Strict (resolveAuthor author) :=
  (strict_fetchUser author).bind fun _ => strict_found _ _

theorem strict_viewPost (post : Post) : Strict (viewPost post) :=
  (strict_fetchUser post.author).bind fun _ => strict_view _ _

theorem strict_learn (known : Known) (author : UserId) : Strict (learn known author) := by
  unfold learn
  split
  · exact strict_pure _
  · exact (strict_fetchUser author).bind fun _ => strict_pure _

theorem strict_viewPosts (known : Known) (posts : List Post) : Strict (viewPosts known posts) := by
  induction posts generalizing known with
  | nil => exact strict_pure _
  | cons post posts ih =>
    apply (strict_learn known post.author).bind
    intro known
    apply (strict_view _ _).bind
    intro shown
    exact (ih known).bind fun _ => strict_pure _

theorem strict_showPosts (posts : List Post) : Strict (do
    respond .ok (writeList? PostView.write? (← viewPosts [] posts))) :=
  (strict_viewPosts [] posts).bind fun _ => strict_respond _ _

theorem strict_showPost (post : Post) : Strict (do respond .ok (← viewPost post).write?) :=
  (strict_viewPost post).bind fun _ => strict_respond _ _

theorem strict_createUser (payload : Json.Members) : Strict (createUser payload) := by
  apply (strict_parse _ _ _).bind
  intro new
  exact (strict_call (.createUser new)).bind fun _ => strict_respond _ _

theorem strict_getUser (id : UserId) : Strict (getUser id) := by
  apply (strict_fetchUser id).bind
  intro user?
  exact (strict_found _ _).bind fun _ => strict_respond _ _

theorem strict_updateUser (mode : Intent) (id : UserId) (payload : Json.Members) :
    Strict (updateUser mode id payload) := by
  apply (strict_fetchUser id).bind
  intro user?
  apply (strict_found _ _).discard.bind
  intro _
  apply (strict_parse _ _ _).bind
  intro changes
  apply (strict_call (.updateUser id changes)).bind
  intro user?
  exact (strict_found _ _).bind fun _ => strict_respond _ _

theorem strict_removed (missing : ServiceError) (deleted : Bool) :
    Strict (removed missing deleted) := by
  cases deleted <;> trivial

theorem strict_listUserPosts (id : UserId) : Strict (listUserPosts id) := by
  apply (strict_call (.fetchUserPosts id)).bind
  intro posts?
  exact (strict_found _ _).bind strict_showPosts

theorem strict_createPost (payload : Json.Members) : Strict (createPost payload) := by
  apply (strict_parse _ _ _).bind
  intro new
  apply (strict_resolveAuthor new.author).bind
  intro author
  apply (strict_call (.createPost new)).bind
  intro post
  exact (strict_view _ _).bind fun _ => strict_respond _ _

theorem strict_getPost (id : PostId) : Strict (getPost id) := by
  apply (strict_call (.fetchPost id)).bind
  intro post?
  exact (strict_found _ _).bind strict_showPost

theorem strict_revisePost (id : PostId) (changes : PostChanges) : Strict (do
    let post : Post ← found (.postNotFound id) (← call (.updatePost id changes))
    respond .ok (← viewPost post).write?) := by
  apply (strict_call (.updatePost id changes)).bind
  intro post?
  exact (strict_found _ _).bind strict_showPost

theorem strict_updatePost (mode : Intent) (id : PostId) (payload : Json.Members) :
    Strict (updatePost mode id payload) := by
  apply (strict_call (.fetchPost id)).bind
  intro post?
  apply (strict_found _ _).discard.bind
  intro _
  apply (strict_parse _ _ _).bind
  intro changes
  cases hauthor : changes.author with
  | none => exact strict_revisePost id changes
  | some author =>
    apply (strict_resolveAuthor author).discard.bind
    intro _
    exact strict_revisePost id changes

theorem strict_handle (request : Request) : Strict (Service.handle request) := by
  have heach : Each Strict :=
    { listUsers := (strict_call .listUsers).bind fun _ => strict_respond _ _
      createUser := strict_createUser
      getUser := strict_getUser
      updateUser := strict_updateUser
      deleteUser := fun id => (strict_call (.deleteUser id)).bind (strict_removed _)
      listUserPosts := strict_listUserPosts
      listPosts := (strict_call .listPosts).bind strict_showPosts
      createPost := strict_createPost
      getPost := strict_getPost
      updatePost := strict_updatePost
      deletePost := fun id => (strict_call (.deletePost id)).bind (strict_removed _)
      notAllowed := fun _ => strict_pure _
      rejected := fun e _ => strict_throw e }
  exact heach.handle request

end Handler

theorem Response.blames_ofError {e : ServiceError} {field message : String}
    (h : e = .validation (.single field message)) : (ofError e).Blames field message := by
  have hreports : (ofError e).Reports e := reports_ofError <| by
    rw [h]
    rintro _ ⟨⟩
    exact FieldErrors.substantial_single field message
  obtain ⟨members, hread, -, -, hfields⟩ := hreports.body
  subst h
  exact ⟨rfl, members, hread, hfields⟩

namespace Sql.Client

variable {reply : (s : Statement) → σ → s.Reply × σ} {state : σ} {request : Request}

theorem exists_call (hmethod : request.method ≠ "HEAD") {s : Statement} {r : Refusal}
    (h : ⟨s, .error r⟩ ∈ sent reply state (Service.respond request)) :
    ∃ c state', ⟨s, .error r⟩ ∈ sentFor reply state' c ∧
      ∀ e, (answering reply c state').1 = .error e →
        outcome reply state (Service.respond request) = .ofError (.ofStore e) := by
  rw [sent, overDatabase, Service.respond, Dialogue.expand_bind, Dialogue.record_bind] at h
  rcases List.mem_append.1 h with h | h
  · obtain ⟨c, state', hsent, hcall⟩ := Dialogue.mem_record_expand h
    refine ⟨c, state', hsent, fun e he => ?_⟩
    change ⟨c, (answering reply c state').1⟩ ∈ (Service.handle request).run.record _ _ at hcall
    rw [he] at hcall
    have hstrict := (Handler.strict_handle request).error_of_mem hcall
    rw [Service.outcome_overDatabase reply state hmethod]
    exact congrArg Service.ofOutcome hstrict
  · cases h

/-- Over a database that replies as it likes, a call comes to a conflict exactly when its write is
refused for it, and clients are told of conflicts as faults in one field and of all else that is
refused as faults of the service. -/
theorem conflicts_named (reply : (s : Statement) → σ → s.Reply × σ) (state : σ) :
    (∀ c, NamesConflicts reply state c) ∧
      ∀ request : Request, request.method ≠ "HEAD" → TellsConflicts reply state request := by
  refine ⟨names_conflicts reply state, fun request hmethod => ?_⟩
  have htold {c : Call} {s : Statement} {k : Constraint} {e : StoreError} {r : Refusal}
      (hconflict : Conflict c s k e) (hr : r.constraint = some k.name)
      (hsent : ⟨s, .error r⟩ ∈ sent reply state (Service.respond request)) :
      outcome reply state (Service.respond request) = .ofError (.ofStore e) := by
    obtain ⟨c', state', hsent, hresponse⟩ := exists_call hmethod hsent
    apply hresponse
    have hconflict' := hconflict.of_statement (statement_mem hsent)
    exact ((names_conflicts reply state' c').conflict e hconflict.isConflict).2
      ⟨s, k, r, hconflict', hsent, hr⟩
  refine ⟨?_, ?_, ?_⟩
  · intro c s email r hconflict hsent hr
    rw [htold hconflict hr hsent]
    exact Response.blames_ofError rfl
  · intro c s author r hconflict hsent hr
    rw [htold hconflict hr hsent]
    exact Response.blames_ofError rfl
  · intro s r hsent hunrelated
    obtain ⟨c, state', hsent, hresponse⟩ := exists_call hmethod hsent
    rw [hresponse _ ((names_conflicts reply state' c).fault s r hsent hunrelated)]
    exact Response.ofError_internal rfl

def refusing (constraint : String) (s : Statement) (state : Unit) : s.Reply × Unit :=
  (.error ⟨"23505", "duplicate key value", some constraint⟩, state)

theorem conflicts_named_newAda :
    Memory.newAda.method ≠ "HEAD" ∧
    (outcome (refusing "users_email_key") () (Service.respond Memory.newAda)).Blames "email"
      "user with this email already exists." ∧
    outcome (refusing "posts_user_id_fkey") () (Service.respond Memory.newAda) =
      .internalFault := by
  have hmethod : Memory.newAda.method ≠ "HEAD" := by decide
  let ada : NewUser := ⟨⟨"ada@example.com", by decide⟩, "Ada", "King", true⟩
  let insert : Statement := .insertUser "ada@example.com" "Ada" "King" true
  have hsent {constraint : String}
      (h : insert ∈ (sent (refusing constraint) () (Service.respond Memory.newAda)).map (·.1)) :
      ⟨insert, .error ⟨"23505", "duplicate key value", some constraint⟩⟩ ∈
        sent (refusing constraint) () (Service.respond Memory.newAda) := by
    obtain ⟨⟨_, answer⟩, hmem, rfl⟩ := List.mem_map.1 h
    have heq : (⟨insert, answer⟩ : Sent) = ⟨insert, (refusing constraint insert ()).1⟩ :=
      Dialogue.eq_of_mem_record (f := fun s => (refusing constraint s ()).1) (fun _ _ => rfl) hmem
    rw [heq] at hmem
    exact hmem
  refine ⟨hmethod, ?_, ?_⟩
  · exact ((conflicts_named (refusing "users_email_key") ()).2 _ hmethod).email (.createUser ada)
      insert _ _ (.createUser ada) (hsent (by decide +kernel)) rfl
  · refine ((conflicts_named (refusing "posts_user_id_fkey") ()).2 _ hmethod).fault insert _
      (hsent (by decide +kernel)) ?_
    intro c k e hconflict
    generalize hs : insert = s at hconflict
    cases hconflict with
    | createUser => decide
    | updateUser | createPost | updatePost => simp only [insert, reduceCtorEq] at hs

end Sql.Client

end Bulletin
