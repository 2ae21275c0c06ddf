import Bulletin.Proofs.Service.Settled
import Bulletin.Proofs.Sql.Posts

namespace Bulletin

open Sql

def Call.Fit : Call → Memory → Prop
  | .createUser new, m => m.Writable 1 ∧
    (m.emailInUse new.email none = false → m.users.last.toNat + 1 < 2 ^ 63)
  | .updateUser id _, m => m.Writable 1 ∧ m.users.contains id
  | .createPost new, m => m.Writable 1 ∧
    (m.users.contains new.author → m.posts.last.toNat + 1 < 2 ^ 63)
  | .deleteUser _, m | .updatePost _ _, m | .deletePost _, m => m.Writable 1
  | _, _ => True

namespace Sql

variable {db : Database} {now : Int64} {s : db.State} {m : Memory}

theorem agrees (h : Kept m (db.tables s)) {c : Call} (hfit : c.Fit m) : Agrees db now m s c := by
  cases c with
  | listUsers => exact agrees_listUsers h
  | fetchUser id => exact agrees_fetchUser h id
  | createUser new => exact agrees_createUser h hfit.1 hfit.2
  | updateUser id changes => exact agrees_updateUser h hfit.1 hfit.2
  | deleteUser id => exact agrees_deleteUser h hfit id
  | listPosts => exact agrees_listPosts h
  | fetchPost id => exact agrees_fetchPost h id
  | fetchUserPosts id => exact agrees_fetchUserPosts h id
  | createPost new => exact agrees_createPost h hfit.1 hfit.2
  | updatePost id changes => exact agrees_updatePost h hfit
  | deletePost id => exact agrees_deletePost h hfit id

/-- A program comes to the same over a database as over the store in memory that it keeps. -/
theorem run_overDatabase {α : Type} {program : StoreProgram α} (h : Kept m (db.tables s))
    (hfit : program.Along (Memory.exec (.ofRow now)) Call.Fit m) :
    ((Client.overDatabase program).run (db.answer now) s).1 = (m.run (.ofRow now) program).1 ∧
      Kept (m.run (.ofRow now) program).2
        (db.tables ((Client.overDatabase program).run (db.answer now) s).2) :=
  Dialogue.run_expand (R := fun m s => Kept m (db.tables s)) (P := Call.Fit)
    (fun _ _ _ hkept hfit => agrees hkept hfit) h hfit

end Sql

namespace Handler

variable {α : Type} {n : Nat} {now : Timestamp} {m : Memory}

theorem ReadOnly.fit {h : Handler α} (hh : ReadOnly h) : Asks Call.Fit now m h := by
  refine Dialogue.Along.imp (fun c m hc => ?_) (hh now m)
  cases c with
  | listUsers | fetchUser | listPosts | fetchPost | fetchUserPosts => trivial
  | _ => cases hc

def Room (now : Timestamp) (m : Memory) (h : Handler Response) : Prop :=
  ∀ r, (h.on now m).1 = .ok r → r.status = .created →
    m.users.last.toNat + 1 < 2 ^ 63 ∧ m.posts.last.toNat + 1 < 2 ^ 63

section Writes

variable (hm : m.Linked) (hw : m.Writable 1)
include hw

theorem fit_updateUser (mode : Intent) (id : UserId) (payload : Json.Members) :
    Asks Call.Fit now m (updateUser mode id payload) := by
  apply (readOnly_fetchUser id).fit.bind
  intro user? m' hget
  cases hget
  cases hfound : m.users.get? id with
  | none => trivial
  | some user =>
    apply Asks.bind (h := discard (pure user)) trivial
    intro _ m' hdone
    cases hdone
    apply Asks.bind (asks_parse _ _ _)
    intro changes m' hparse
    obtain ⟨-, rfl⟩ := on_parse_ok hparse
    apply Asks.bind (asks_call (c := .updateUser id changes) ⟨hw, by simp [Table.contains, hfound]⟩)
    intro user? m' _
    exact Asks.bind (asks_found _ _) fun _ _ _ => asks_respond _ _

theorem fit_updatePost (mode : Intent) (id : PostId) (payload : Json.Members) :
    Asks Call.Fit now m (updatePost mode id payload) := by
  have hrevise changes : Asks Call.Fit now m (do
      let post : Post ← found (.postNotFound id) (← call (.updatePost id changes))
      respond .ok (← viewPost post).write?) := by
    apply Asks.bind (asks_call (c := .updatePost id changes) hw)
    intro post? m' _
    apply Asks.bind (asks_found _ _)
    intro post m' _
    exact (readOnly_viewPost post).fit.bind fun _ _ _ => asks_respond _ _
  apply (readOnly_call (c := .fetchPost id) trivial).fit.bind
  intro post? m' hget
  cases hget
  cases hfound : m.posts.get? id with
  | none => trivial
  | some post =>
    apply Asks.bind (h := discard (pure post)) trivial
    intro _ m' hdone
    cases hdone
    apply Asks.bind (asks_parse _ _ _)
    intro changes m' hparse
    obtain ⟨-, rfl⟩ := on_parse_ok hparse
    specialize hrevise changes
    cases changes.author with
    | none => exact hrevise
    | some author =>
      have hresolve := readOnly_discard (readOnly_resolveAuthor author)
      apply hresolve.fit.bind
      intro _ m' hdone
      have hsame := hresolve.on_snd now m
      rw [hdone] at hsame
      cases hsame
      exact hrevise

section Creating

variable (hnow : now.Writable n) {payload : Json.Members}
include hnow

theorem fit_createUser (hroom : Room now m (createUser payload)) :
    Asks Call.Fit now m (createUser payload) := by
  apply Asks.bind (asks_parse _ _ _)
  intro new m' hparse
  obtain ⟨-, rfl⟩ := on_parse_ok hparse
  have hnext (hfree : m.emailInUse new.email none = false) :
      m.users.last.toNat + 1 < 2 ^ 63 := by
    have hexec : m.exec now (.createUser new) = (.ok _, _) := Memory.createUser_of_free hfree
    have hon : (createUser payload).on now m =
        (respond .created (new.toUser ⟨m.users.last + 1⟩ now).write?).on now _ :=
      (on_bind_ok hparse).trans (on_bind_ok (on_call_ok hexec))
    have hshown : (new.toUser ⟨m.users.last + 1⟩ now).write?.isSome :=
      User.write?_isSome_iff.2 ⟨hnow.write?_isSome, hnow.write?_isSome⟩
    obtain ⟨body, hbody⟩ := Option.isSome_iff_exists.1 hshown
    rw [hbody] at hon
    exact (hroom (.json .created body) (by rw [hon]; rfl) rfl).1
  exact Asks.bind (asks_call (c := .createUser new) ⟨hw, hnext⟩) fun _ _ _ => asks_respond _ _

include hm

theorem fit_createPost (hroom : Room now m (createPost payload)) :
    Asks Call.Fit now m (createPost payload) := by
  apply Asks.bind (asks_parse _ _ _)
  intro new m' hparse
  obtain ⟨-, rfl⟩ := on_parse_ok hparse
  apply (readOnly_resolveAuthor new.author).fit.bind
  intro author m' hresolve
  obtain ⟨hauthor, rfl⟩ := on_resolveAuthor_ok hresolve
  have hid : author.id = new.author := (hm.users.get?_eq_some_iff.1 hauthor).2
  have hnext (hknown : m.users.contains new.author) : m.posts.last.toNat + 1 < 2 ^ 63 := by
    have hexec : m.exec now (.createPost new) = (.ok _, _) := Memory.createPost_of_known hknown
    have hon : (createPost payload).on now m = (respond .created (PostView.write?
        ⟨new.toPost ⟨m.posts.last + 1⟩ now, author.firstName⟩)).on now _ :=
      (on_bind_ok hparse).trans ((on_bind_ok hresolve).trans
        ((on_bind_ok (on_call_ok hexec)).trans (on_bind_ok (on_view_some hid))))
    have hshown : (PostView.write?
        ⟨new.toPost ⟨m.posts.last + 1⟩ now, author.firstName⟩).isSome :=
      PostView.write?_isSome_iff.2 ⟨hnow.write?_isSome, hnow.write?_isSome⟩
    obtain ⟨body, hbody⟩ := Option.isSome_iff_exists.1 hshown
    rw [hbody] at hon
    exact (hroom (.json .created body) (by rw [hon]; rfl) rfl).2
  apply Asks.bind (asks_call (c := .createPost new) ⟨hw, hnext⟩)
  intro post m' _
  exact Asks.bind (asks_view _ _) fun _ _ _ => asks_respond _ _

end Creating

end Writes

theorem fit_handle (hm : m.Linked) (hw : m.Writable 1) (hnow : now.Writable n) {request : Request}
    (hroom : Room now m (Service.handle request)) :
    Asks Call.Fit now m (Service.handle request) := by
  have heach : Each fun h => Room now m h → Asks Call.Fit now m h :=
    { listUsers := fun _ => readOnly_listUsers.fit
      createUser := fun _ => fit_createUser hw hnow
      getUser := fun id _ => (readOnly_getUser id).fit
      updateUser := fun mode id payload _ => fit_updateUser hw mode id payload
      deleteUser := fun id _ =>
        (asks_call (c := .deleteUser id) hw).bind fun _ _ _ => asks_removed _ _
      listUserPosts := fun id _ => (readOnly_listUserPosts id).fit
      listPosts := fun _ => readOnly_listPosts.fit
      createPost := fun _ => fit_createPost hm hw hnow
      getPost := fun id _ => (readOnly_getPost id).fit
      updatePost := fun mode id payload _ => fit_updatePost hw mode id payload
      deletePost := fun id _ =>
        (asks_call (c := .deletePost id) hw).bind fun _ _ _ => asks_removed _ _
      notAllowed := fun _ _ => asks_pure _
      rejected := fun e _ _ => asks_throw e }
  exact heach.handle request hroom

end Handler

end Bulletin
