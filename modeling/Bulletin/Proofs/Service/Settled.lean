import Bulletin.Proofs.Service.Writable
import Bulletin.Store.Kind

/-!
What comes of a request: a refusal, a look at the store as it is, or one write and a report of it.
Every failure of a handler comes before its write, except that a time may not be one to be shown.
-/

namespace Bulletin

def Call.success? : Call → Option Status
  | .createUser _ | .createPost _ => some .created
  | .updateUser _ _ | .updatePost _ _ => some .ok
  | .deleteUser _ | .deletePost _ => some .noContent
  | _ => none

/-- One call has created or changed something that cannot be shown, as its times are not all in the
years from 0 to 9999. -/
def Kind.LeftUnshown {entity : Entity} {α : Type} (k : Kind entity α) (now : Timestamp)
    (m m' : Memory) : Prop :=
  ∃ (c : Call) (result : c.Result) (a : α), m.exec now c = (.ok result, m') ∧
    (k.created? ⟨c, .ok result⟩ = some a ∨ k.changed? ⟨c, .ok result⟩ = some a) ∧
    k.Holds m' a ∧ ¬ Timestamp.FourDigits [k.createdAt a, k.updatedAt a]

def Memory.LeftUnshown (now : Timestamp) (m m' : Memory) : Prop :=
  Kind.users.LeftUnshown now m m' ∨ Kind.posts.LeftUnshown now m m'

namespace Handler

variable {α β : Type} {n : Nat} {now : Timestamp} {m m' : Memory}

inductive Settled (now : Timestamp) (m : Memory) : Except ServiceError Response × Memory → Prop
  | refused {e} : e.status ≠ .internalError → Settled now m (.error e, m)
  | shown {r : Response} : r.status = .ok ∨ r.status = .methodNotAllowed → Settled now m (.ok r, m)
  | hidden {reason} : ¬ m.Writable 0 → Settled now m (.error (.unwritable reason), m)
  | written {c r result m'} : m.exec now c = (.ok result, m') → c.success? = some r.status →
    Settled now m (.ok r, m')
  | unshown {reason m'} : Memory.LeftUnshown now m m' →
    Settled now m (.error (.unwritable reason), m')

theorem exec_error {c : Call} {e : StoreError} (h : m.exec now c = (.error e, m')) :
    m' = m ∧ (ServiceError.ofStore e).status ≠ .internalError := by
  cases c with
  | createUser new =>
    simp only [Memory.exec, Memory.createUser] at h
    split at h
    · cases h
      simp [ServiceError.ofStore, ServiceError.status]
    · cases h
  | updateUser id changes =>
    simp only [Memory.exec, Memory.updateUser] at h
    split at h
    · cases h
      simp [ServiceError.ofStore, ServiceError.status]
    · split at h <;> cases h
  | createPost new =>
    simp only [Memory.exec, Memory.createPost] at h
    split at h
    · cases h
    · cases h
      simp [ServiceError.ofStore, ServiceError.unknownAuthor, ServiceError.status]
  | updatePost id changes =>
    simp only [Memory.exec, Memory.updatePost] at h
    split at h
    · cases h
    · split at h
      · cases h
        simp [ServiceError.ofStore, ServiceError.unknownAuthor, ServiceError.status]
      · cases h
  | _ => cases h

section Steps

variable {h : Handler α} {f : α → Handler Response}

theorem Settled.read {a : α} (hon : h.on now m = (.ok a, m)) (hf : Settled now m ((f a).on now m)) :
    Settled now m ((h >>= f).on now m) := by
  rw [on_bind, hon]
  exact hf

theorem Settled.refuse {e : ServiceError} (hon : h.on now m = (.error e, m))
    (he : e.status ≠ .internalError) : Settled now m ((h >>= f).on now m) := by
  rw [on_bind, hon]
  exact .refused he

theorem Settled.discard {f : Unit → Handler Response}
    (hf : Settled now m ((h >>= fun _ => f ()).on now m)) :
    Settled now m ((Functor.discard h >>= f).on now m) := by
  rw [on_bind] at hf ⊢
  rw [on_discard]
  cases hon : h.on now m with
  | mk outcome m' =>
    rw [hon] at hf
    cases outcome <;> exact hf

theorem Settled.found {e : ServiceError} {a? : Option α} (he : e.status ≠ .internalError)
    (hf : ∀ a, a? = some a → Settled now m ((f a).on now m)) :
    Settled now m ((Handler.found e a? >>= f).on now m) := by
  cases a? with
  | none => exact .refuse rfl he
  | some a => exact .read rfl (hf a rfl)

theorem Settled.parse {form : Form α} {mode : Intent} {payload : Json.Members}
    (hf : ∀ a, Settled now m ((f a).on now m)) :
    Settled now m ((Handler.parse form mode payload >>= f).on now m) := by
  cases hparse : form.parse mode payload with
  | error errors => exact .refuse (by rw [on_parse, hparse]; rfl) (by simp [ServiceError.status])
  | ok a => exact .read (by rw [on_parse, hparse]; rfl) (hf a)

theorem Settled.call {c : Call} {f : c.Result → Handler Response}
    (hf : ∀ result m', m.exec now c = (.ok result, m') → Settled now m ((f result).on now m')) :
    Settled now m ((Handler.call c >>= f).on now m) := by
  rw [on_bind, on_call]
  cases hexec : m.exec now c with
  | mk reply m' =>
    cases reply with
    | error e =>
      obtain ⟨rfl, he⟩ := exec_error hexec
      exact .refused he
    | ok result => exact hf result m' hexec

theorem Settled.resolve {id : UserId} {f : User → Handler Response}
    (hf : ∀ author, m.users.get? id = some author → Settled now m ((f author).on now m)) :
    Settled now m ((resolveAuthor id >>= f).on now m) := by
  cases hget : m.users.get? id with
  | none =>
    apply Settled.refuse (e := .unknownAuthor id)
    · rw [resolveAuthor, on_bind, on_fetchUser, hget]
      rfl
    · simp [ServiceError.unknownAuthor, ServiceError.status]
  | some author =>
    apply Settled.read (a := author)
    · rw [resolveAuthor, on_bind, on_fetchUser, hget]
      rfl
    · exact hf author hget

end Steps

theorem Settled.respond {body : Option Bytes} (hbody : m.Writable 0 → body.isSome) :
    Settled now m ((Handler.respond .ok body).on now m) := by
  cases body with
  | none => exact .hidden fun hw => nomatch hbody hw
  | some body => exact .shown (.inl rfl)

theorem Settled.report {c : Call} {result : c.Result} {status : Status} {body : Option Bytes}
    (hexec : m.exec now c = (.ok result, m')) (hstatus : c.success? = some status)
    (hbody : ¬ body.isSome → m.LeftUnshown now m') :
    Settled now m ((Handler.respond status body).on now m') := by
  cases body with
  | none => exact .unshown (hbody nofun)
  | some body => exact .written hexec hstatus

theorem step_of_exec {c : Call} {reply : c.Reply} (h : m.exec now c = (reply, m')) :
    Memory.Step now m ⟨c, reply⟩ m' := by
  have := Memory.exec_step now m c
  rwa [h] at this

theorem mem_of_userPosts {id : UserId} {posts : List Post} (h : m.userPosts id = some posts) :
    ∀ post ∈ posts, post ∈ m.posts.values := by
  unfold Memory.userPosts at h
  split at h <;> cases h
  exact fun _ hpost => List.mem_of_mem_filter hpost

section Reading

theorem settled_listUsers : Settled now m (listUsers.on now m) := by
  apply Settled.call
  intro users m' hexec
  cases hexec
  apply Settled.respond
  intro hw
  apply writeList?_isSome
  intro user huser
  exact hw.user huser

variable (hm : m.Linked)
include hm

theorem settled_getUser (id : UserId) : Settled now m ((getUser id).on now m) := by
  apply Settled.read (on_fetchUser id)
  apply Settled.found (by simp [ServiceError.status])
  intro user hget
  apply Settled.respond
  intro hw
  exact hw.user (hm.users.get?_eq_some_iff.1 hget).1

theorem settled_viewPosts {posts : List Post} (hposts : ∀ post ∈ posts, post ∈ m.posts.values) :
    Settled now m ((viewPosts [] posts >>= fun shown =>
      respond .ok (writeList? PostView.write? shown)).on now m) := by
  have hauthors post (hpost : post ∈ posts) := hm.authors post (hposts post hpost)
  apply Settled.read (on_viewPosts hm hauthors (fun _ _ h => by cases h))
  apply Settled.respond
  intro hw
  apply writeList?_isSome
  intro shown hshown
  obtain ⟨post, hpost, rfl⟩ := List.mem_map.1 hshown
  exact hw.post (hposts post hpost) _

theorem settled_listUserPosts (id : UserId) : Settled now m ((listUserPosts id).on now m) := by
  apply Settled.call
  intro result m' hexec
  cases hexec
  apply Settled.found (by simp [ServiceError.status])
  intro posts hposts
  exact settled_viewPosts hm (mem_of_userPosts hposts)

theorem settled_listPosts : Settled now m (listPosts.on now m) := by
  apply Settled.call
  intro posts m' hexec
  cases hexec
  exact settled_viewPosts hm fun _ hpost => hpost

theorem settled_getPost (id : PostId) : Settled now m ((getPost id).on now m) := by
  apply Settled.read (on_fetchPost id)
  apply Settled.found (by simp [ServiceError.status])
  intro post hget
  have hpost := (hm.posts.get?_eq_some_iff.1 hget).1
  apply Settled.read (on_viewPost hm (hm.authors post hpost))
  apply Settled.respond
  intro hw
  exact hw.post hpost _

end Reading

theorem settled_delete {c : Call} {deleted : c.Result → Bool} {missing : ServiceError}
    (hc : c.success? = some .noContent) (hmissing : missing.status = .notFound)
    (hdeleted : ∀ result, deleted result = false → Event.wrote ⟨c, .ok result⟩ = false) :
    Settled now m ((call c >>= fun result => removed missing (deleted result)).on now m) := by
  apply Settled.call
  intro result m' hexec
  cases hresult : deleted result with
  | true => exact .written hexec hc
  | false =>
    obtain rfl := (step_of_exec hexec).eq_of_not_wrote (hdeleted result hresult)
    exact .refused (by simp [hmissing])

section Writing

variable {c : Call} {result : c.Result}

theorem leftUnshown {entity : Entity} {k : Kind entity α} {a : α} {body : Option Bytes}
    (hk : k.Stepwise) (hkeyed : (k.table m).Keyed k.ident)
    (ha : k.created? ⟨c, .ok result⟩ = some a ∨ k.changed? ⟨c, .ok result⟩ = some a)
    (hbody : body.isSome ↔ (k.createdAt a).write?.isSome ∧ (k.updatedAt a).write?.isSome)
    (hexec : m.exec now c = (.ok result, m')) (hnone : ¬ body.isSome) : k.LeftUnshown now m m' := by
  rw [hbody, ← Timestamp.fourDigits_iff] at hnone
  exact ⟨c, result, a, hexec, ha, Kind.holds_of_exec hk hkeyed hexec ha, hnone⟩

variable (hm : m.Linked)
include hm

theorem leftUnshown_user {user : User} (huser : Event.createdUser? ⟨c, .ok result⟩ = some user ∨
      Event.changedUser? ⟨c, .ok result⟩ = some user) (hexec : m.exec now c = (.ok result, m'))
    (hnone : ¬ user.write?.isSome) : m.LeftUnshown now m' :=
  .inl (leftUnshown Kind.stepwise_users hm.users huser User.write?_isSome_iff hexec hnone)

theorem leftUnshown_post {post : Post} {name : String}
    (hpost : Event.createdPost? ⟨c, .ok result⟩ = some post ∨
      Event.changedPost? ⟨c, .ok result⟩ = some post) (hexec : m.exec now c = (.ok result, m'))
    (hnone : ¬ (PostView.write? ⟨post, name⟩).isSome) : m.LeftUnshown now m' := by
  have hbody : (PostView.write? ⟨post, name⟩).isSome ↔
      post.createdAt.write?.isSome ∧ post.updatedAt.write?.isSome := PostView.write?_isSome_iff
  exact .inr (leftUnshown Kind.stepwise_posts hm.posts hpost hbody hexec hnone)

theorem settled_createUser (payload : Json.Members) :
    Settled now m ((createUser payload).on now m) := by
  apply Settled.parse
  intro new
  apply Settled.call
  intro user m' hexec
  exact .report hexec rfl (leftUnshown_user hm (.inl rfl) hexec)

theorem settled_updateUser (mode : Intent) (id : UserId) (payload : Json.Members) :
    Settled now m ((updateUser mode id payload).on now m) := by
  apply Settled.read (on_fetchUser id)
  apply Settled.discard
  apply Settled.found (by simp [ServiceError.status])
  intro _ _
  apply Settled.parse
  intro changes
  apply Settled.call
  intro result m' hexec
  cases result with
  | none =>
    obtain rfl := (step_of_exec hexec).eq_of_not_wrote rfl
    exact .refuse rfl (by simp [ServiceError.status])
  | some user => exact .report hexec rfl (leftUnshown_user hm (.inr rfl) hexec)

theorem settled_createPost (payload : Json.Members) :
    Settled now m ((createPost payload).on now m) := by
  apply Settled.parse
  intro new
  apply Settled.resolve
  intro author hauthor
  apply Settled.call
  intro post m' hexec
  cases step_of_exec hexec with
  | idle h => cases h
  | createPost =>
    have hid : author.id = new.author := (hm.users.get?_eq_some_iff.1 hauthor).2
    rw [on_bind_ok (on_view_some hid)]
    exact .report hexec rfl (leftUnshown_post hm (.inl rfl) hexec)

theorem settled_revisePost (now : Timestamp) (id : PostId) (changes : PostChanges) :
    Settled now m ((do
      let post : Post ← found (.postNotFound id) (← call (.updatePost id changes))
      respond .ok (← viewPost post).write?).on now m) := by
  apply Settled.call
  intro result m' hexec
  have hstep := step_of_exec hexec
  cases result with
  | none =>
    obtain rfl := hstep.eq_of_not_wrote rfl
    exact .refuse rfl (by simp [ServiceError.status])
  | some post =>
    have hm' := hstep.linked hm
    have hpost := Kind.mem_of_exec Kind.stepwise_posts hm.posts hexec (.inr rfl)
    change Settled now m ((viewPost _ >>= _).on now _)
    rw [on_bind, on_viewPost hm' (hm'.authors _ hpost)]
    exact .report hexec rfl (leftUnshown_post hm (.inr rfl) hexec)

theorem settled_updatePost (mode : Intent) (id : PostId) (payload : Json.Members) :
    Settled now m ((updatePost mode id payload).on now m) := by
  apply Settled.read (on_fetchPost id)
  apply Settled.discard
  apply Settled.found (by simp [ServiceError.status])
  intro _ _
  apply Settled.parse
  intro changes
  have hrevise := settled_revisePost hm now id changes
  cases changes.author with
  | none => exact hrevise
  | some author =>
    apply Settled.discard
    apply Settled.resolve
    intro _ _
    exact hrevise

end Writing

theorem settled_handle (hm : m.Linked) (now : Timestamp) (request : Request) :
    Settled now m ((Service.handle request).on now m) := by
  have heach : Each fun h => Settled now m (h.on now m) :=
    { listUsers := settled_listUsers
      createUser := settled_createUser hm
      getUser := settled_getUser hm
      updateUser := settled_updateUser hm
      deleteUser := fun id => settled_delete (c := .deleteUser id) rfl rfl (by rintro _ rfl; rfl)
      listUserPosts := settled_listUserPosts hm
      listPosts := settled_listPosts hm
      createPost := settled_createPost hm
      getPost := settled_getPost hm
      updatePost := settled_updatePost hm
      deletePost := fun id => settled_delete (c := .deletePost id) rfl rfl (by rintro _ rfl; rfl)
      notAllowed := fun _ => .shown (.inr rfl)
      rejected := fun _ he => .refused he }
  exact heach.handle request

namespace Settled

variable {outcome : Except ServiceError Response}

theorem step (h : Settled now m (outcome, m')) : ∃ e, Memory.Step now m e m' := by
  have hidle : Memory.Step now m ⟨.listUsers, .ok m.users.values⟩ m := .idle rfl
  cases h with
  | refused => exact ⟨_, hidle⟩
  | shown => exact ⟨_, hidle⟩
  | hidden => exact ⟨_, hidle⟩
  | written hexec => exact ⟨_, step_of_exec hexec⟩
  | unshown h =>
    rcases h with ⟨_, _, _, hexec, -⟩ | ⟨_, _, _, hexec, -⟩ <;> exact ⟨_, step_of_exec hexec⟩

theorem not_leftUnshown (hm : m'.Linked) (hw : m'.Writable 0) : ¬ m.LeftUnshown now m' := by
  rintro (⟨_, _, user, -, -, hheld, htimes⟩ | ⟨_, _, post, -, -, hheld, htimes⟩)
  · have hshown := hw.user (hm.users.get?_eq_some_iff.1 hheld).1
    exact htimes (Timestamp.fourDigits_iff.2 (User.write?_isSome_iff.1 hshown))
  · have hshown := hw.post (hm.posts.get?_eq_some_iff.1 hheld).1 ""
    have htimes' := PostView.write?_isSome_iff.1 hshown
    exact htimes (Timestamp.fourDigits_iff.2 htimes')

/-- Where all times can be shown, whatever is wrong is so with the request. -/
theorem faultless {e : ServiceError} (h : Settled now m (.error e, m')) (hm : m.Linked)
    (hw : m.Writable 0) (hw' : m'.Writable 0) : e.status ≠ .internalError := by
  obtain ⟨_, hstep⟩ := h.step
  cases h with
  | refused he => exact he
  | hidden hhidden => exact absurd hw hhidden
  | unshown hleft => exact absurd hleft (not_leftUnshown (hstep.linked hm) hw')

end Settled

end Handler

end Bulletin
