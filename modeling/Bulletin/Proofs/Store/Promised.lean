import Bulletin.Proofs.Store.Sound

namespace Bulletin.Memory

variable {α : Type} {now : Timestamp} {m : Memory} {e : StoreError}
variable {outcome : Except StoreError (Option α) × Memory}

/-- What is missing is found missing, whatever is to be changed, and the store stays as it is.
Errors are conflicts of a row that is there. -/
structure Promised (m : Memory) (present : Bool) (conflict : StoreError → Prop)
    (outcome : Except StoreError (Option α) × Memory) : Prop where
  missing : present = false → outcome = (.ok none, m)
  error : ∀ e, outcome.1 = .error e ↔ present ∧ conflict e

def UserConflict (m : Memory) (id : UserId) (changes : UserChanges) (e : StoreError) : Prop :=
  ∃ email, changes.email = some email ∧ e = .emailTaken email ∧
    ∃ other ∈ m.users.values, other.id ≠ id ∧ other.email = email

def PostConflict (m : Memory) (changes : PostChanges) (e : StoreError) : Prop :=
  ∃ author, changes.author = some author ∧ e = .unknownAuthor author ∧
    m.users.contains author = false

section Users

variable {id : UserId} {changes : UserChanges}

theorem emailInUse_iff {email : Email} : m.emailInUse email (some id) ↔
    ∃ other ∈ m.users.values, other.id ≠ id ∧ other.email = email := by
  simp [emailInUse, and_comm]

theorem updateUser_of_conflict (h : m.UserConflict id changes e) :
    m.updateUser now id changes = (.error e, m) := by
  obtain ⟨email, hemail, rfl, hother⟩ := h
  exact updateUser_of_taken hemail (emailInUse_iff.2 hother)

section Free

variable (hfree : ∀ e, ¬ m.UserConflict id changes e)
include hfree

theorem emailInUse_of_free :
    ∀ email, changes.email = some email → m.emailInUse email (some id) = false := by
  intro email hemail
  rw [← Bool.not_eq_true, emailInUse_iff]
  exact fun hother => hfree _ ⟨email, hemail, rfl, hother⟩

theorem updateUser_of_missing (hmissing : m.users.contains id = false) :
    m.updateUser now id changes = (.ok none, m) := by
  have hnone : m.users.get? id = none := by simpa [Table.contains] using hmissing
  have htaken : changes.email.filter (m.emailInUse · (some id)) = none := by
    rw [Option.filter_eq_none_iff]
    intro email hemail
    simp [emailInUse_of_free hfree email hemail]
  simp [updateUser, htaken, hnone]

theorem updateUser_ok : ∃ user?, (m.updateUser now id changes).1 = .ok user? := by
  cases hfound : m.users.get? id with
  | none =>
    have hmissing : m.users.contains id = false := by simp [Table.contains, hfound]
    exact ⟨none, congrArg Prod.fst (updateUser_of_missing hfree hmissing)⟩
  | some user => exact ⟨_, congrArg Prod.fst (updateUser_of_free hfound (emailInUse_of_free hfree))⟩

end Free

theorem updateUser_error_iff :
    (m.updateUser now id changes).1 = .error e ↔ m.UserConflict id changes e := by
  constructor
  · intro herror
    by_cases hconflict : ∃ e, m.UserConflict id changes e
    · obtain ⟨e', hconflict⟩ := hconflict
      rw [updateUser_of_conflict hconflict] at herror
      cases herror
      exact hconflict
    · obtain ⟨user?, hok⟩ := updateUser_ok (not_exists.1 hconflict)
      rw [hok] at herror
      cases herror
  · exact fun hconflict => congrArg Prod.fst (updateUser_of_conflict hconflict)

theorem promised_user_iff :
    m.Promised (m.users.contains id) (m.UserConflict id changes) (m.updateUser now id changes) ↔
      m.users.contains id ∨ ∀ e, ¬ m.UserConflict id changes e := by
  constructor
  · intro h
    by_cases hpresent : m.users.contains id
    · exact .inl hpresent
    · refine .inr fun e hconflict => hpresent ?_
      exact ((h.error e).1 (updateUser_error_iff.2 hconflict)).1
  · rintro (hpresent | hfree)
    · constructor
      · exact fun hmissing => absurd hpresent (by simp [hmissing])
      · intro e
        rw [updateUser_error_iff, and_iff_right hpresent]
    · constructor
      · exact updateUser_of_missing hfree
      · intro e
        rw [updateUser_error_iff]
        exact ⟨fun h => absurd h (hfree e), fun h => absurd h.2 (hfree e)⟩

end Users

section Posts

variable {id : PostId} {changes : PostChanges}

theorem updatePost_error_iff {post : Post} (hfound : m.posts.get? id = some post) :
    (m.updatePost now id changes).1 = .error e ↔ m.PostConflict changes e := by
  constructor
  · intro herror
    by_cases hknown : ∀ author, changes.author = some author → m.users.contains author
    · rw [updatePost_of_known hfound hknown] at herror
      cases herror
    · obtain ⟨author, hauthor, hunknown⟩ : ∃ author, changes.author = some author ∧
          m.users.contains author = false := by simpa using hknown
      rw [updatePost_of_unknown hfound hauthor hunknown] at herror
      cases herror
      exact ⟨author, hauthor, rfl, hunknown⟩
  · rintro ⟨author, hauthor, rfl, hunknown⟩
    rw [updatePost_of_unknown hfound hauthor hunknown]

theorem promised_post :
    m.Promised (m.posts.contains id) (m.PostConflict changes) (m.updatePost now id changes) := by
  cases hfound : m.posts.get? id with
  | none =>
    rw [updatePost_of_missing hfound, Table.contains, hfound]
    constructor <;> simp
  | some post =>
    rw [Table.contains, hfound]
    constructor
    · simp
    · intro e
      rw [updatePost_error_iff hfound]
      exact (and_iff_right rfl).symm

end Posts

/-- Of a post that is to be changed, the store keeps the promise. Of a user it does unless the user
is missing and another one has the email; that email is then reported. -/
theorem promised_of_changes (m : Memory) (now : Timestamp) :
    (∀ id changes,
      m.Promised (m.posts.contains id) (m.PostConflict changes) (m.updatePost now id changes)) ∧
    (∀ id changes,
      m.Promised (m.users.contains id) (m.UserConflict id changes) (m.updateUser now id changes) ↔
        m.users.contains id ∨ ∀ e, ¬ m.UserConflict id changes e) ∧
    ∀ id changes e, m.UserConflict id changes e → m.updateUser now id changes = (.error e, m) :=
  ⟨fun _ _ => promised_post, fun _ _ => promised_user_iff, fun _ _ _ => updateUser_of_conflict⟩

/-- Ada's email is found to be taken for a user 99 who is not there. -/
theorem taken_before_missing :
    let ada : Email := ⟨"ada@example.com", by decide⟩
    let m := after {} [(⟨0, 0⟩, .createUser ⟨ada, "Ada", "Lovelace", true⟩)]
    m.users.contains ⟨99⟩ = false ∧
      m.updateUser ⟨1, 0⟩ ⟨99⟩ { email := some ada } = (.error (.emailTaken ada), m) ∧
      ¬ m.Promised (m.users.contains ⟨99⟩) (m.UserConflict ⟨99⟩ { email := some ada })
        (m.updateUser ⟨1, 0⟩ ⟨99⟩ { email := some ada }) := by
  intro ada m
  have hmissing : m.users.contains ⟨99⟩ = false := by decide
  have htaken : m.updateUser ⟨1, 0⟩ ⟨99⟩ { email := some ada } = (.error (.emailTaken ada), m) := by
    decide
  refine ⟨hmissing, htaken, fun h => ?_⟩
  have hnone := h.missing hmissing
  rw [htaken] at hnone
  cases hnone

end Bulletin.Memory
