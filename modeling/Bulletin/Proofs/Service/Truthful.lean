import Bulletin.Proofs.Service.Unchanged
import Bulletin.Proofs.Sql.Orderly

namespace Bulletin

open Sql

variable {α β : Type} {n : Nat} {log : List Sent}

structure Truthful (r : Response) (log : List Sent) : Prop where
  orderly : Orderly log
  harmless : 400 ≤ r.status.code → r.status.code < 500 → ∀ x ∈ log, x.wrote = false

namespace Handler

/-- The handler succeeds with what is asked for, or it fails and has done no harm. -/
def Heeds (Q : α → List Sent → Prop) (h : Handler α) (log : List Sent) : Prop :=
  Dialogue.Brings Harmless Q (ExceptT.mk (Client.overDatabase h.run)) log

variable {Q : α → List Sent → Prop}

theorem Heeds.bind {h : Handler α} {f : α → Handler β} {R : β → List Sent → Prop}
    (hh : Heeds (fun a log => Heeds R (f a) log) h log) : Heeds R (h >>= f) log :=
  Dialogue.Brings.expand_bind hh

theorem Heeds.discard {h : Handler α} {R : Unit → List Sent → Prop}
    (hh : Heeds (fun _ log => R () log) h log) : Heeds R (discard h) log := Heeds.bind hh

theorem heeds_found {e : ServiceError} {a? : Option α} (he : a? = none → Harmless e log)
    (h : ∀ a, a? = some a → Q a log) : Heeds Q (found e a?) log := by
  cases a? with
  | none => exact he rfl
  | some a => exact h a rfl

theorem heeds_call {c : Call} {Q : c.Result → List Sent → Prop}
    (h : Client.Ends Q (Client.perform c) log) : Heeds Q (call c) log :=
  Dialogue.Brings.mapError h

theorem heeds_respond {status : Status} {body : Option Bytes} (horderly : Orderly log)
    (hstatus : status.code < 400) : Heeds Truthful (respond status body) log := by
  cases body with
  | none => exact ⟨horderly, fun h => absurd rfl h⟩
  | some body => exact ⟨horderly, fun h _ => absurd h (Nat.not_le.2 hstatus)⟩

theorem heeds_view {post : Post} {user? : Option User} {Q : PostView → List Sent → Prop}
    (horderly : Orderly log) (h : ∀ shown, Q shown log) : Heeds Q (view post user?) log := by
  change Dialogue.Brings Harmless Q
    (ExceptT.mk (.done ((PostView.render post user?).mapError .orphan))) log
  cases PostView.render post user? with
  | ok shown => exact h shown
  | error d => exact ⟨horderly, fun h => absurd rfl h⟩

theorem heeds_write {c : Call} (h : Passed 0 log) (hc : ¬ c.Reads)
    {Q : c.Result → List Sent → Prop} (hQ : ∀ result log, Passed 1 log →
      (Event.wrote ⟨c, .ok result⟩ = false → ∀ x ∈ log, x.wrote = false) → Q result log) :
    Heeds Q (call c) log :=
  heeds_call (Client.ends_write h hc hQ)

section Reads

variable (h : Passed n log) (hn : n ≤ 1)
include h hn

theorem heeds_read {c : Call} (hc : c.Reads) {Q : c.Result → List Sent → Prop}
    (hQ : ∀ result log, Passed n log → Q result log) : Heeds Q (call c) log :=
  heeds_call (Client.ends_read h hn hc hQ)

theorem heeds_fetchUser {id : UserId} {Q : Option User → List Sent → Prop}
    (hQ : ∀ user? log, Passed n log → Q user? log) : Heeds Q (fetchUser id) log :=
  heeds_read h hn (c := .fetchUser id) trivial hQ

theorem heeds_viewPost {post : Post} {Q : PostView → List Sent → Prop}
    (hQ : ∀ shown log, Passed n log → Q shown log) : Heeds Q (viewPost post) log := by
  apply Heeds.bind
  apply heeds_fetchUser h hn
  intro user? log h
  exact heeds_view (h.orderly hn) fun shown => hQ shown log h

theorem heeds_learn {known : Known} {author : UserId} {Q : Known → List Sent → Prop}
    (hQ : ∀ known log, Passed n log → Q known log) : Heeds Q (learn known author) log := by
  unfold learn
  split
  · exact hQ known log h
  · apply Heeds.bind
    apply heeds_fetchUser h hn
    intro user? log h
    exact hQ _ log h

omit h in
theorem heeds_viewPosts {posts : List Post} {known : Known} {log : List Sent}
    {Q : List PostView → List Sent → Prop} (h : Passed n log)
    (hQ : ∀ views log, Passed n log → Q views log) : Heeds Q (viewPosts known posts) log := by
  induction posts generalizing known log Q with
  | nil => exact hQ [] log h
  | cons post posts ih =>
    apply Heeds.bind
    apply heeds_learn h hn
    intro known log h
    apply Heeds.bind
    apply heeds_view (h.orderly hn)
    intro shown
    apply Heeds.bind
    apply ih h
    intro views log h
    exact hQ _ log h

end Reads

theorem harmless_of_passed {e : ServiceError} (h : Passed 0 log) : Harmless e log :=
  ⟨h.orderly (Nat.zero_le 1), fun _ => h.not_wrote⟩

section Unwritten

variable (h : Passed 0 log)
include h

theorem heeds_look {e : ServiceError} {a? : Option α} (hQ : ∀ a, Q a log) :
    Heeds Q (found e a?) log :=
  heeds_found (fun _ => harmless_of_passed h) fun a _ => hQ a

theorem heeds_parse {form : Form α} {mode : Intent} {payload : Json.Members} (hQ : ∀ a, Q a log) :
    Heeds Q (parse form mode payload) log := by
  unfold parse
  cases form.parse mode payload with
  | error errors => exact harmless_of_passed h
  | ok a => exact hQ a

theorem heeds_resolveAuthor {author : UserId} {Q : User → List Sent → Prop}
    (hQ : ∀ user log, Passed 0 log → Q user log) : Heeds Q (resolveAuthor author) log := by
  apply Heeds.bind
  apply heeds_fetchUser h (Nat.zero_le 1)
  intro user? log h
  exact heeds_look h fun user => hQ user log h

end Unwritten

def Careful (h : Handler Response) : Prop := Heeds Truthful h []

theorem careful_listUsers : Careful listUsers := by
  apply Heeds.bind
  apply heeds_read passed_nil (Nat.zero_le 1) (c := .listUsers) trivial
  intro users log h
  exact heeds_respond (h.orderly (Nat.zero_le 1)) (by decide)

theorem careful_createUser (payload : Json.Members) : Careful (createUser payload) := by
  apply Heeds.bind
  apply heeds_parse passed_nil
  intro new
  apply Heeds.bind
  apply heeds_write passed_nil (c := .createUser new) not_false
  intro user log h _
  exact heeds_respond (h.orderly (Nat.le_refl 1)) (by decide)

theorem careful_getUser (id : UserId) : Careful (getUser id) := by
  apply Heeds.bind
  apply heeds_fetchUser passed_nil (Nat.zero_le 1)
  intro user? log h
  apply Heeds.bind
  apply heeds_look h
  intro user
  exact heeds_respond (h.orderly (Nat.zero_le 1)) (by decide)

theorem careful_updateUser (mode : Intent) (id : UserId) (payload : Json.Members) :
    Careful (updateUser mode id payload) := by
  apply Heeds.bind
  apply heeds_fetchUser passed_nil (Nat.zero_le 1)
  intro user? log h
  apply Heeds.bind
  apply Heeds.discard
  apply heeds_look h
  intro _
  apply Heeds.bind
  apply heeds_parse h
  intro changes
  apply Heeds.bind
  apply heeds_write h (c := .updateUser id changes) not_false
  intro user? log h hwrote
  apply Heeds.bind
  apply heeds_found fun hnone => ⟨h.orderly (Nat.le_refl 1), fun _ => hwrote (by rw [hnone]; rfl)⟩
  intro user _
  exact heeds_respond (h.orderly (Nat.le_refl 1)) (by decide)

theorem careful_listUserPosts (id : UserId) : Careful (listUserPosts id) := by
  apply Heeds.bind
  apply heeds_read passed_nil (Nat.zero_le 1) (c := .fetchUserPosts id) trivial
  intro posts? log h
  apply Heeds.bind
  apply heeds_look h
  intro posts
  apply Heeds.bind
  apply heeds_viewPosts (Nat.zero_le 1) h
  intro views log h
  exact heeds_respond (h.orderly (Nat.zero_le 1)) (by decide)

theorem careful_listPosts : Careful listPosts := by
  apply Heeds.bind
  apply heeds_read passed_nil (Nat.zero_le 1) (c := .listPosts) trivial
  intro posts log h
  apply Heeds.bind
  apply heeds_viewPosts (Nat.zero_le 1) h
  intro views log h
  exact heeds_respond (h.orderly (Nat.zero_le 1)) (by decide)

theorem careful_createPost (payload : Json.Members) : Careful (createPost payload) := by
  apply Heeds.bind
  apply heeds_parse passed_nil
  intro new
  apply Heeds.bind
  apply heeds_resolveAuthor passed_nil
  intro author log h
  apply Heeds.bind
  apply heeds_write h (c := .createPost new) not_false
  intro post log h _
  apply Heeds.bind
  apply heeds_view (h.orderly (Nat.le_refl 1))
  intro shown
  exact heeds_respond (h.orderly (Nat.le_refl 1)) (by decide)

theorem careful_getPost (id : PostId) : Careful (getPost id) := by
  apply Heeds.bind
  apply heeds_read passed_nil (Nat.zero_le 1) (c := .fetchPost id) trivial
  intro post? log h
  apply Heeds.bind
  apply heeds_look h
  intro post
  apply Heeds.bind
  apply heeds_viewPost h (Nat.zero_le 1)
  intro shown log h
  exact heeds_respond (h.orderly (Nat.zero_le 1)) (by decide)

theorem heeds_revisePost {id : PostId} {changes : PostChanges} (h : Passed 0 log) :
    Heeds Truthful (do
      let post : Post ← found (.postNotFound id) (← call (.updatePost id changes))
      respond .ok (← viewPost post).write?) log := by
  apply Heeds.bind
  apply heeds_write h (c := .updatePost id changes) not_false
  intro post? log h hwrote
  apply Heeds.bind
  apply heeds_found fun hnone => ⟨h.orderly (Nat.le_refl 1), fun _ => hwrote (by rw [hnone]; rfl)⟩
  intro post _
  apply Heeds.bind
  apply heeds_viewPost h (Nat.le_refl 1)
  intro shown log h
  exact heeds_respond (h.orderly (Nat.le_refl 1)) (by decide)

theorem careful_updatePost (mode : Intent) (id : PostId) (payload : Json.Members) :
    Careful (updatePost mode id payload) := by
  apply Heeds.bind
  apply heeds_read passed_nil (Nat.zero_le 1) (c := .fetchPost id) trivial
  intro post? log h
  apply Heeds.bind
  apply Heeds.discard
  apply heeds_look h
  intro _
  apply Heeds.bind
  apply heeds_parse h
  intro changes
  cases hauthor : changes.author with
  | none => exact heeds_revisePost h
  | some author =>
    apply Heeds.bind
    apply Heeds.discard
    apply heeds_resolveAuthor h
    intro user log h
    exact heeds_revisePost h

theorem heeds_removed {missing : ServiceError} {deleted : Bool} (h : Passed 1 log)
    (hidle : deleted = false → ∀ x ∈ log, x.wrote = false) :
    Heeds Truthful (removed missing deleted) log := by
  cases deleted with
  | true => exact ⟨h.orderly (Nat.le_refl 1), fun h => absurd h (by decide)⟩
  | false => exact ⟨h.orderly (Nat.le_refl 1), fun _ => hidle rfl⟩

theorem careful_handle (request : Request) : Careful (Service.handle request) := by
  have hquiet : Orderly [] := passed_nil.orderly (Nat.zero_le 1)
  have heach : Each Careful :=
    { listUsers := careful_listUsers
      createUser := careful_createUser
      getUser := careful_getUser
      updateUser := careful_updateUser
      deleteUser := fun id => Heeds.bind (heeds_write passed_nil (c := .deleteUser id) not_false
        fun _ _ h hidle => heeds_removed h fun hno => hidle (by rw [hno]; rfl))
      listUserPosts := careful_listUserPosts
      listPosts := careful_listPosts
      createPost := careful_createPost
      getPost := careful_getPost
      updatePost := careful_updatePost
      deletePost := fun id => Heeds.bind (heeds_write passed_nil (c := .deletePost id) not_false
        fun _ _ h hidle => heeds_removed h fun hno => hidle (by rw [hno]; rfl))
      notAllowed := fun _ => ⟨hquiet, fun _ _ => nofun⟩
      rejected := fun _ _ => harmless_of_passed passed_nil }
  exact heach.handle request

end Handler

namespace Service

open Handler

theorem truthful_respond (request : Request) :
    (Client.overDatabase (respond request)).Yields Truthful [] := by
  rw [Client.overDatabase, respond, Dialogue.expand_bind]
  apply Dialogue.Yields.bind
  apply Dialogue.Yields.imp _ (careful_handle request)
  intro outcome log houtcome
  cases outcome with
  | ok r =>
    refine ⟨houtcome.orderly, ?_⟩
    rw [Memory.status_trimmed]
    exact houtcome.harmless
  | error e =>
    refine ⟨houtcome.orderly, fun _ hclient => houtcome.harmless fun hinternal => ?_⟩
    have hstatus : (trimmed request (ofOutcome (.error e))).status = e.status :=
      Memory.status_trimmed _
    rw [hstatus, hinternal] at hclient
    exact absurd hclient (by decide)

/-- Over a database that replies as it likes, every request sends fixed texts only, at most one of
them to write, and nothing after a reply that is an error or cannot be decoded. A client who is told
to be at fault has changed nothing. -/
theorem harmless_to_clients (request : Request) (σ : Type)
    (reply : (s : Statement) → σ → s.Reply × σ) (state : σ) :
    Orderly (Client.sent reply state (respond request)) ∧
      (400 ≤ (Client.outcome reply state (respond request)).status.code →
        (Client.outcome reply state (respond request)).status.code < 500 →
        ∀ x ∈ Client.sent reply state (respond request), x.wrote = false) := by
  have h := (truthful_respond request).of_run reply state
  rw [List.nil_append] at h
  exact ⟨h.orderly, h.harmless⟩

def refuseAll (s : Statement) (state : Unit) : s.Reply × Unit :=
  (.error ⟨"23505", "duplicate key value violates unique constraint", some Client.emailKey⟩, state)

theorem harmless_refused_ada :
    (Client.outcome refuseAll () (respond Memory.newAda)).status = .badRequest ∧
    (Client.sent refuseAll () (respond Memory.newAda)).map (·.1.isWrite) = [true] ∧
    Orderly (Client.sent refuseAll () (respond Memory.newAda)) ∧
    ∀ x ∈ Client.sent refuseAll () (respond Memory.newAda), x.wrote = false := by
  have hstatus : (Client.outcome refuseAll () (respond Memory.newAda)).status = .badRequest := by
    decide +kernel
  obtain ⟨horderly, hharmless⟩ := harmless_to_clients Memory.newAda Unit refuseAll ()
  refine ⟨hstatus, by decide +kernel, horderly, hharmless ?_ ?_⟩
  · rw [hstatus]
    decide
  · rw [hstatus]
    decide

end Service

end Bulletin
