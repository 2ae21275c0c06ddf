import Bulletin.Proofs.Service.Unchanged
import Bulletin.Proofs.View.Tidy

namespace Bulletin

variable {α β : Type} {now : Timestamp} {m m' : Memory}

namespace Handler

def BringsTidy (h : Handler α) : Prop := ∀ now m, Asks (fun c _ => c.Tidy) now m h

theorem ReadOnly.bringsTidy {h : Handler α} (hh : ReadOnly h) : BringsTidy h := by
  intro now m
  refine Dialogue.Along.imp (fun c m hc => ?_) (hh now m)
  cases c with
  | listUsers | fetchUser | listPosts | fetchPost | fetchUserPosts => trivial
  | _ => cases hc

theorem BringsTidy.bind {h : Handler α} {f : α → Handler β} (hh : BringsTidy h)
    (hf : ∀ a, BringsTidy (f a)) : BringsTidy (h >>= f) :=
  fun now m => (hh now m).bind fun a m' _ => hf a now m'

theorem bringsTidy_call {c : Call} (h : c.Tidy) : BringsTidy (call c) := fun _ _ => asks_call h

theorem bringsTidy_parse {form : Form α} {mode : Intent} {payload : Json.Members}
    {f : α → Handler β} (hf : ∀ a, form.parse mode payload = .ok a → BringsTidy (f a)) :
    BringsTidy (parse form mode payload >>= f) := by
  intro now m
  apply (asks_parse form mode payload).bind
  intro a m' hon
  exact hf a (on_parse_ok hon).1 now m'

theorem bringsTidy_found (e : ServiceError) (a? : Option α) : BringsTidy (found e a?) :=
  fun _ _ => asks_found e a?

theorem bringsTidy_createUser (payload : Json.Members) : BringsTidy (createUser payload) := by
  apply bringsTidy_parse
  intro new hnew
  apply (bringsTidy_call (tidy_newUser hnew)).bind
  intro user
  exact (readOnly_respond _ _).bringsTidy

theorem bringsTidy_updateUser (mode : Intent) (id : UserId) (payload : Json.Members) :
    BringsTidy (updateUser mode id payload) := by
  apply (readOnly_fetchUser id).bringsTidy.bind
  intro user?
  apply (readOnly_discard fun _ _ => asks_found _ _).bringsTidy.bind
  intro _
  apply bringsTidy_parse
  intro changes hchanges
  apply (bringsTidy_call (tidy_userChanges hchanges id)).bind
  intro user?
  apply (bringsTidy_found _ _).bind
  intro user
  exact (readOnly_respond _ _).bringsTidy

theorem bringsTidy_createPost (payload : Json.Members) : BringsTidy (createPost payload) := by
  apply bringsTidy_parse
  intro new hnew
  apply (readOnly_resolveAuthor new.author).bringsTidy.bind
  intro author
  apply (bringsTidy_call (tidy_newPost hnew)).bind
  intro post
  apply BringsTidy.bind (fun _ _ => asks_view _ _)
  intro shown
  exact (readOnly_respond _ _).bringsTidy

theorem bringsTidy_revisePost {id : PostId} {changes : PostChanges}
    (h : (Call.updatePost id changes).Tidy) : BringsTidy (do
      let post : Post ← found (.postNotFound id) (← call (.updatePost id changes))
      respond .ok (← viewPost post).write?) := by
  apply (bringsTidy_call h).bind
  intro post?
  apply (bringsTidy_found _ _).bind
  intro post
  exact ((readOnly_viewPost post).bind fun _ => readOnly_respond _ _).bringsTidy

theorem bringsTidy_updatePost (mode : Intent) (id : PostId) (payload : Json.Members) :
    BringsTidy (updatePost mode id payload) := by
  apply (readOnly_call (c := .fetchPost id) trivial).bringsTidy.bind
  intro post?
  apply (readOnly_discard fun _ _ => asks_found _ _).bringsTidy.bind
  intro _
  apply bringsTidy_parse
  intro changes hchanges
  have hrevise := bringsTidy_revisePost (tidy_postChanges hchanges id)
  cases changes.author with
  | none => exact hrevise
  | some author =>
    exact (readOnly_discard (readOnly_resolveAuthor author)).bringsTidy.bind fun _ => hrevise

theorem bringsTidy_handle (request : Request) : BringsTidy (Service.handle request) := by
  have heach : Each BringsTidy :=
    { listUsers := readOnly_listUsers.bringsTidy
      createUser := bringsTidy_createUser
      getUser := fun id => (readOnly_getUser id).bringsTidy
      updateUser := bringsTidy_updateUser
      deleteUser := fun id => (bringsTidy_call (c := .deleteUser id) trivial).bind
        fun _ _ _ => asks_removed _ _
      listUserPosts := fun id => (readOnly_listUserPosts id).bringsTidy
      listPosts := readOnly_listPosts.bringsTidy
      createPost := bringsTidy_createPost
      getPost := fun id => (readOnly_getPost id).bringsTidy
      updatePost := bringsTidy_updatePost
      deletePost := fun id => (bringsTidy_call (c := .deletePost id) trivial).bind
        fun _ _ _ => asks_removed _ _
      notAllowed := fun _ _ _ => asks_pure _
      rejected := fun e _ _ _ => asks_throw e }
  exact heach.handle request

end Handler

namespace Memory

theorem tidy_empty : Tidy {} where
  users := nofun
  posts := nofun

theorem tidy_getD {max : Option Nat} {s? : Option String} {s : String}
    (hnew : ∀ t ∈ s?, Text.Tidy max t) (hold : Text.Tidy max s) : Text.Tidy max (s?.getD s) := by
  cases s? with
  | none => exact hold
  | some t => exact hnew t rfl

theorem Step.tidy {e : Event} (h : Step now m e m') (hcall : e.call.Tidy) (hm : m.Linked)
    (ht : m.Tidy) : m'.Tidy where
  users := by
    apply (Kind.step_users h).all ht.users
    · intro user huser
      cases h with
      | idle he => cases (Event.createdUser?_of_not_wrote he).symm.trans huser
      | createUser =>
        cases huser
        exact ⟨Email.ofText_text _, hcall.1, hcall.2⟩
      | _ => cases huser
    · intro user huser
      cases h with
      | idle he => cases (Event.changedUser?_of_not_wrote he).symm.trans huser
      | updateUser hfound =>
        cases huser
        have hold := ht.users _ (hm.users.get?_eq_some_iff.1 hfound).1
        exact ⟨Email.ofText_text _, tidy_getD hcall.1 hold.firstName,
          tidy_getD hcall.2 hold.lastName⟩
      | _ => cases huser
  posts := by
    apply (Kind.step_posts h).all ht.posts
    · intro post hpost
      cases h with
      | idle he => cases (Event.createdPost?_of_not_wrote he).symm.trans hpost
      | createPost =>
        cases hpost
        exact ⟨hcall.1, hcall.2⟩
      | _ => cases hpost
    · intro post hpost
      cases h with
      | idle he => cases (Event.changedPost?_of_not_wrote he).symm.trans hpost
      | updatePost hfound =>
        cases hpost
        have hold := ht.posts _ (hm.posts.get?_eq_some_iff.1 hfound).1
        exact ⟨tidy_getD hcall.1 hold.title, tidy_getD hcall.2 hold.content⟩
      | _ => cases hpost

theorem exec_tidy {c : Call} (hcall : c.Tidy) (h : m.Linked ∧ m.Tidy) :
    (m.exec now c).2.Linked ∧ (m.exec now c).2.Tidy := by
  have hstep := exec_step now m c
  exact ⟨hstep.linked h.1, hstep.tidy hcall h.1 h.2⟩

theorem answer_tidy (request : Request) (h : m.Linked ∧ m.Tidy) :
    (m.answer now request).2.Linked ∧ (m.answer now request).2.Tidy := by
  rw [answer_eq]
  have hcalls := Handler.bringsTidy_handle request now m
  exact hcalls.keeps (I := fun m => m.Linked ∧ m.Tidy) (fun _ _ hcall hm => exec_tidy hcall hm) h

theorem served_tidy (requests : List (Timestamp × Request)) (h : m.Linked ∧ m.Tidy) :
    (m.served requests).Tidy := by
  induction requests generalizing m with
  | nil => exact h.2
  | cons reading requests ih => exact ih (answer_tidy reading.2 h)

/-- Whatever requests lead to, all names, emails, titles and contents are tidy. It is the forms that
see to it: a store that is called in another way holds any text. -/
theorem tidy_of_requests (requests : List (Timestamp × Request)) :
    (served {} requests).Tidy ∧ ∀ text : String, ∃ calls,
      (∃ user ∈ (after {} calls).users.values, user.firstName = text ∧ user.lastName = text) ∧
      ∃ post ∈ (after {} calls).posts.values, post.title = text ∧ post.content = text := by
  refine ⟨served_tidy requests ⟨linked_empty, tidy_empty⟩, fun text => ?_⟩
  refine ⟨[(⟨0, 0⟩, .createUser ⟨⟨"ada@example.com", by decide⟩, text, text, true⟩),
    (⟨0, 0⟩, .createPost ⟨text, text, ⟨1⟩, true⟩)], ?_, ?_⟩
  · exact ⟨_, List.mem_singleton_self _, rfl, rfl⟩
  · exact ⟨_, List.mem_singleton_self _, rfl, rfl⟩

end Memory

end Bulletin
