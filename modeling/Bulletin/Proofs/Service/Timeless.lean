import Bulletin.Proofs.Service.Alike
import Bulletin.Proofs.Service.Unchanged

namespace Bulletin

namespace Handler

variable {α β γ δ : Type}

/-- Two handlers that make the same calls and come to the same, up to times. -/
def Same (f : α → γ) (h h' : Handler α) : Prop :=
  Dialogue.Related Call.SameReply (fun outcome outcome' => outcome.map f = outcome'.map f)
    h.run h'.run

theorem map_eq_cases {ε : Type} {f : α → γ} {a? b? : Except ε α} (h : a?.map f = b?.map f) :
    (∃ e, a? = .error e ∧ b? = .error e) ∨ ∃ a b, a? = .ok a ∧ b? = .ok b ∧ f a = f b := by
  cases a? with
  | error e => cases b? with
    | error e' => exact .inl ⟨e, rfl, congrArg Except.error (Except.error.inj h).symm⟩
    | ok b => cases h
  | ok a => cases b? with
    | error e => cases h
    | ok b => exact .inr ⟨a, b, rfl, rfl, Except.ok.inj h⟩

theorem related_bind {Out : Except ServiceError β → Except ServiceError β → Prop} {f : α → γ}
    {h h' : Handler α} {k k' : α → Handler β} (herror : ∀ e, Out (.error e) (.error e))
    (hh : Same f h h')
    (hk : ∀ a a', f a = f a' → Dialogue.Related Call.SameReply Out (k a).run (k' a').run) :
    Dialogue.Related Call.SameReply Out (h >>= k).run (h' >>= k').run := by
  apply Dialogue.Related.bind hh
  intro outcome outcome' hsame
  rcases map_eq_cases hsame with ⟨e, rfl, rfl⟩ | ⟨a, a', rfl, rfl, ha⟩
  · exact .done (herror e)
  · exact hk a a' ha

theorem Same.bind {f : α → γ} {g : β → δ} {h h' : Handler α} {k k' : α → Handler β}
    (hh : Same f h h') (hk : ∀ a a', f a = f a' → Same g (k a) (k' a')) :
    Same g (h >>= k) (h' >>= k') :=
  related_bind (fun _ => rfl) hh hk

theorem same_pure {f : α → γ} {a a' : α} (h : f a = f a') : Same f (pure a) (pure a') :=
  .done (congrArg Except.ok h)

theorem same_throw {f : α → γ} (e : ServiceError) : Same f (throw e) (throw e) := .done rfl

theorem same_call (c : Call) : Same c.timeless (call c) (call c) := by
  apply Dialogue.Related.ask
  intro reply reply' hsame
  apply Dialogue.Related.done
  rcases map_eq_cases hsame with ⟨e, rfl, rfl⟩ | ⟨result, result', rfl, rfl, hresult⟩
  · rfl
  · exact congrArg Except.ok hresult

theorem same_found {f : α → γ} (e : ServiceError) {a? a'? : Option α}
    (h : a?.map f = a'?.map f) : Same f (found e a?) (found e a'?) := by
  rcases cases_of_map_eq h with ⟨rfl, rfl⟩ | ⟨a, a', rfl, rfl, ha⟩
  · exact same_throw e
  · exact same_pure ha

theorem same_fetchUser {id id' : UserId} (h : id = id') :
    Same (Option.map User.timeless) (fetchUser id) (fetchUser id') :=
  h ▸ same_call (.fetchUser id)

theorem same_resolveAuthor (author : UserId) :
    Same User.timeless (resolveAuthor author) (resolveAuthor author) :=
  (same_fetchUser rfl).bind fun _ _ huser => same_found _ huser

theorem render_timeless (post : Post) (author? : Option User) :
    (PostView.render post author?).map PostView.timeless =
      PostView.render post.timeless (author?.map User.timeless) := by
  cases author? with
  | none => rfl
  | some author =>
    by_cases hid : author.id = post.author <;>
      simp [PostView.render, Option.filter, hid, User.timeless, Post.timeless, PostView.timeless,
        Except.map]

theorem same_view {post post' : Post} {author? author?' : Option User}
    (hpost : post.timeless = post'.timeless)
    (hauthor : author?.map User.timeless = author?'.map User.timeless) :
    Same PostView.timeless (view post author?) (view post' author?') := by
  apply Dialogue.Related.done
  have hshown := render_timeless post author?
  rw [hpost, hauthor, ← render_timeless] at hshown
  rcases map_eq_cases hshown with ⟨e, he, he'⟩ | ⟨v, v', hv, hv', hsame⟩
  · rw [he, he']
  · rw [hv, hv']
    exact congrArg Except.ok hsame

theorem author_eq {post post' : Post} (h : post.timeless = post'.timeless) :
    post.author = post'.author := by
  have hauthor := congrArg Post.author h
  exact hauthor

theorem same_viewPost {post post' : Post} (h : post.timeless = post'.timeless) :
    Same PostView.timeless (viewPost post) (viewPost post') :=
  (same_fetchUser (author_eq h)).bind fun _ _ hauthor => same_view h hauthor

def Known.timeless (known : Known) : Known :=
  known.map fun (id, user) => (id, user.map User.timeless)

theorem same_lookup {known known' : Known} (h : known.timeless = known'.timeless) (id : UserId) :
    (known.lookup id).map (Option.map User.timeless) =
      (known'.lookup id).map (Option.map User.timeless) := by
  rw [← lookup_map, ← lookup_map]
  exact congrArg (List.lookup id) h

theorem same_learn {known known' : Known} (h : known.timeless = known'.timeless)
    {author author' : UserId} (hauthor : author = author') :
    Same Known.timeless (learn known author) (learn known' author') := by
  subst hauthor
  unfold learn
  have hlookup := same_lookup h author
  rcases cases_of_map_eq hlookup with ⟨hnone, hnone'⟩ | ⟨user, user', hsome, hsome', _⟩
  · rw [hnone, hnone']
    apply (same_fetchUser rfl).bind
    intro user user' huser
    apply same_pure
    simp only [Known.timeless, List.map_cons, huser]
    exact congrArg _ h
  · rw [hsome, hsome']
    exact same_pure h

theorem same_viewPosts {posts posts' : List Post}
    (h : posts.map Post.timeless = posts'.map Post.timeless) {known known' : Known}
    (hknown : known.timeless = known'.timeless) :
    Same (List.map PostView.timeless) (viewPosts known posts) (viewPosts known' posts') := by
  induction posts generalizing posts' known known' with
  | nil =>
    cases posts' with
    | nil => exact same_pure rfl
    | cons post' posts' => cases h
  | cons post posts ih =>
    cases posts' with
    | nil => cases h
    | cons post' posts' =>
      simp only [List.map_cons, List.cons.injEq] at h
      apply (same_learn hknown (author_eq h.1)).bind
      intro known known' hknown
      have hlookup := same_lookup hknown post.author
      rw [author_eq h.1] at hlookup ⊢
      have hauthor : ((known.lookup post'.author).join).map User.timeless =
          ((known'.lookup post'.author).join).map User.timeless := by
        rcases cases_of_map_eq hlookup with ⟨hnone, hnone'⟩ | ⟨user, user', hsome, hsome', huser⟩
        · rw [hnone, hnone']
        · rw [hsome, hsome']
          exact huser
      apply (same_view h.1 hauthor).bind
      intro shown shown' hshown
      apply (ih h.2 hknown).bind
      intro rest rest' hrest
      apply same_pure
      rw [List.map_cons, List.map_cons, hshown, hrest]

inductive Answered : Except ServiceError Response → Except ServiceError Response → Prop
  | ok {r r'} : r.Alike r' → Answered (.ok r) (.ok r')
  | error e : Answered (.error e) (.error e)
  | unwritable {reason outcome} : Answered (.error (.unwritable reason)) outcome
  | unwritable' {reason outcome} : Answered outcome (.error (.unwritable reason))

def Alike (h h' : Handler Response) : Prop :=
  Dialogue.Related Call.SameReply Answered h.run h'.run

theorem Same.alike {f : α → γ} {h h' : Handler α} {k k' : α → Handler Response}
    (hh : Same f h h') (hk : ∀ a a', f a = f a' → Alike (k a) (k' a')) :
    Alike (h >>= k) (h' >>= k') :=
  related_bind .error hh hk

theorem alike_parse {form : Form α} {mode : Intent} {payload : Json.Members}
    {k k' : α → Handler Response} (hk : ∀ a, Alike (k a) (k' a)) :
    Alike (parse form mode payload >>= k) (parse form mode payload >>= k') := by
  have hparse : Same (fun a => a) (parse form mode payload) (parse form mode payload) := .done rfl
  apply hparse.alike
  intro a a' ha
  exact ha ▸ hk a

theorem Same.alike_discard {f : α → γ} {h h' : Handler α} {k k' : Unit → Handler Response}
    (hh : Same f h h') (hk : Alike (k ()) (k' ())) :
    Alike (discard h >>= k) (discard h' >>= k') := by
  have hdiscard : Same (fun u => u) (discard h) (discard h') := hh.bind fun _ _ _ => same_pure rfl
  exact hdiscard.alike fun _ _ _ => hk

theorem Alike.on {h h' : Handler Response} (hh : Alike h h') {now now' : Timestamp}
    {m m' : Memory} (hm : m.timeless = m'.timeless) :
    Answered (h.on now m).1 (h'.on now' m').1 ∧
      (h.on now m).2.timeless = (h'.on now' m').2.timeless := by
  have hstep (c : Call) (m m' : Memory) (hm : m.timeless = m'.timeless) :
      c.SameReply (m.exec now c).1 (m'.exec now' c).1 ∧
        (m.exec now c).2.timeless = (m'.exec now' c).2.timeless :=
    Memory.exec_same hm c
  exact Dialogue.Related.run hstep hh hm

theorem alike_throw (e : ServiceError) : Alike (throw e) (throw e) := .done (.error e)

theorem alike_pure (r : Response) : Alike (pure r) (pure r) := .done (.ok (.refl r))

theorem alike_respond (status : Status) {body? body'? : Option Bytes}
    (h : AlikeBodies body? body'?) : Alike (respond status body?) (respond status body'?) := by
  cases body? with
  | none =>
    cases body'? with
    | none => exact alike_throw _
    | some body' => exact .done Answered.unwritable
  | some body =>
    cases body'? with
    | none => exact .done Answered.unwritable'
    | some body' => exact .done (.ok ⟨rfl, rfl, rfl, h body rfl body' rfl⟩)

theorem alike_listUsers : Alike listUsers listUsers := by
  apply (same_call .listUsers).alike
  intro users users' husers
  exact alike_respond _ (alikeBodies_list (fun _ _ => alikeBodies_user) husers)

theorem alike_createUser (payload : Json.Members) :
    Alike (createUser payload) (createUser payload) := by
  apply alike_parse
  intro new
  apply (same_call (.createUser new)).alike
  intro user user' huser
  exact alike_respond _ (alikeBodies_user huser)

theorem alike_getUser (id : UserId) : Alike (getUser id) (getUser id) := by
  apply (same_fetchUser rfl).alike
  intro user? user?' huser
  apply (same_found _ huser).alike
  intro user user' huser
  exact alike_respond _ (alikeBodies_user huser)

theorem alike_updateUser (mode : Intent) (id : UserId) (payload : Json.Members) :
    Alike (updateUser mode id payload) (updateUser mode id payload) := by
  apply (same_fetchUser rfl).alike
  intro user? user?' huser
  apply (same_found _ huser).alike_discard
  apply alike_parse
  intro changes
  apply (same_call (.updateUser id changes)).alike
  intro user? user?' huser
  apply (same_found _ huser).alike
  intro user user' huser
  exact alike_respond _ (alikeBodies_user huser)

theorem alike_removed (missing : ServiceError) {deleted deleted' : Bool} (h : deleted = deleted') :
    Alike (removed missing deleted) (removed missing deleted') := by
  subst h
  cases deleted with
  | true => exact alike_pure _
  | false => exact alike_throw _

theorem alike_viewPosts {posts posts' : List Post}
    (h : posts.map Post.timeless = posts'.map Post.timeless) :
    Alike (viewPosts [] posts >>= fun shown => respond .ok (writeList? PostView.write? shown))
      (viewPosts [] posts' >>= fun shown => respond .ok (writeList? PostView.write? shown)) := by
  apply (same_viewPosts h rfl).alike
  intro shown shown' hshown
  exact alike_respond _ (alikeBodies_list (fun _ _ => alikeBodies_post) hshown)

theorem alike_listUserPosts (id : UserId) : Alike (listUserPosts id) (listUserPosts id) := by
  apply (same_call (.fetchUserPosts id)).alike
  intro posts? posts?' hposts
  apply (same_found _ hposts).alike
  intro posts posts' hposts
  exact alike_viewPosts hposts

theorem alike_listPosts : Alike listPosts listPosts := by
  apply (same_call .listPosts).alike
  intro posts posts' hposts
  exact alike_viewPosts hposts

theorem alike_createPost (payload : Json.Members) :
    Alike (createPost payload) (createPost payload) := by
  apply alike_parse
  intro new
  apply (same_resolveAuthor new.author).alike
  intro author author' hauthor
  apply (same_call (.createPost new)).alike
  intro post post' hpost
  have hsome : (some author).map User.timeless = (some author').map User.timeless :=
    congrArg some hauthor
  apply (same_view hpost hsome).alike
  intro shown shown' hshown
  exact alike_respond _ (alikeBodies_post hshown)

theorem alike_getPost (id : PostId) : Alike (getPost id) (getPost id) := by
  apply (same_call (.fetchPost id)).alike
  intro post? post?' hpost
  apply (same_found _ hpost).alike
  intro post post' hpost
  apply (same_viewPost hpost).alike
  intro shown shown' hshown
  exact alike_respond _ (alikeBodies_post hshown)

theorem alike_updatePost (mode : Intent) (id : PostId) (payload : Json.Members) :
    Alike (updatePost mode id payload) (updatePost mode id payload) := by
  apply (same_call (.fetchPost id)).alike
  intro post? post?' hpost
  apply (same_found _ hpost).alike_discard
  apply alike_parse
  intro changes
  have hrevise : Alike
      (do let post : Post ← found (.postNotFound id) (← call (.updatePost id changes))
          respond .ok (← viewPost post).write?)
      (do let post : Post ← found (.postNotFound id) (← call (.updatePost id changes))
          respond .ok (← viewPost post).write?) := by
    apply (same_call (.updatePost id changes)).alike
    intro post? post?' hpost
    apply (same_found _ hpost).alike
    intro post post' hpost
    apply (same_viewPost hpost).alike
    intro shown shown' hshown
    exact alike_respond _ (alikeBodies_post hshown)
  cases changes.author with
  | none => exact hrevise
  | some author =>
    apply (same_resolveAuthor author).alike_discard
    exact hrevise

theorem alike_handle (request : Request) :
    Alike (Service.handle request) (Service.handle request) := by
  have heach : Each fun h => Alike h h :=
    { listUsers := alike_listUsers
      createUser := alike_createUser
      getUser := alike_getUser
      updateUser := alike_updateUser
      deleteUser := fun id => (same_call (.deleteUser id)).alike fun _ _ => alike_removed _
      listUserPosts := alike_listUserPosts
      listPosts := alike_listPosts
      createPost := alike_createPost
      getPost := alike_getPost
      updatePost := alike_updatePost
      deletePost := fun id => (same_call (.deletePost id)).alike fun _ _ => alike_removed _
      notAllowed := fun _ => alike_pure _
      rejected := fun e _ => alike_throw e }
  exact heach.handle request

end Handler

theorem Response.Alike.trimmed {r r' : Response} (h : r.Alike r') (request : Request) :
    (Service.trimmed request r).Alike (Service.trimmed request r') := by
  unfold Service.trimmed
  split
  · exact ⟨h.status, h.contentType, h.allow, .nil⟩
  · exact h

theorem Memory.answer_alike {n n' : Nat} {now now' : Timestamp} {m m' : Memory} (hm : m.Linked)
    (hw : m.Writable (n + 1)) (hnow : now.Writable n) (hm' : m'.Linked)
    (hw' : m'.Writable (n' + 1)) (hnow' : now'.Writable n') (h : m.timeless = m'.timeless)
    (request : Request) : (m.answer now request).1.Alike (m'.answer now' request).1 ∧
      (m.answer now request).2.timeless = (m'.answer now' request).2.timeless := by
  obtain ⟨hanswered, hnext⟩ := (Handler.alike_handle request).on h
  have hsettled := Handler.settled_handle hm now request
  have hsettled' := Handler.settled_handle hm' now' request
  have hnow := (answer_writable hm hw hnow request).mono (Nat.zero_le n)
  have hnow' := (answer_writable hm' hw' hnow' request).mono (Nat.zero_le n')
  rw [answer_eq] at hnow hnow' ⊢
  rw [answer_eq]
  refine ⟨Response.Alike.trimmed ?_ request, hnext⟩
  generalize (Service.handle request).on now m = outcome at *
  generalize (Service.handle request).on now' m' = outcome' at *
  obtain ⟨outcome, m⟩ := outcome
  obtain ⟨outcome', m'⟩ := outcome'
  cases hanswered with
  | ok hr => exact hr
  | error e => exact .refl _
  | unwritable => exact absurd rfl (hsettled.faultless hm (hw.mono (Nat.zero_le _)) hnow)
  | unwritable' => exact absurd rfl (hsettled'.faultless hm' (hw'.mono (Nat.zero_le _)) hnow')

end Bulletin
