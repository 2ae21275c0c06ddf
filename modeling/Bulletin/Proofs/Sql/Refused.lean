import Bulletin.Proofs.Sql.Kept
import Bulletin.Proofs.Sql.Received
import Bulletin.Service.Refused

namespace Bulletin

open Dialogue (attempt attempt_bind record_attempt_bind)

variable {α β σ : Type}

theorem Sql.Internal.not_conflict {e : StoreError} (h : Sql.Internal e) : ¬ e.IsConflict := by
  obtain ⟨_, rfl⟩ | ⟨_, rfl⟩ := h <;> exact id

namespace Sql

variable {c c' : Call} {s : Statement} {k : Constraint} {e : StoreError} {r : Refusal}

theorem Conflict.isConflict (h : Conflict c s k e) : e.IsConflict := by
  cases h <;> trivial

theorem Conflict.not_isPlain (h : Conflict c s k e) : c.isPlain = false := by
  cases h <;> rfl

theorem Conflict.of_statement (h : Conflict c s k e) (hs : s ∈ Client.statements c') :
    Conflict c' s k e := by
  cases h with
  | createUser new =>
    cases c' with
    | createUser new' =>
      have heq : new = new' := by
        simp only [Client.statements, List.mem_singleton, Statement.insertUser.injEq,
          Email.text_injective.eq_iff] at hs
        cases new
        cases new'
        simpa using hs
      exact heq ▸ .createUser new
    | _ => simp [Client.statements] at hs
  | @updateUser id changes email hemail =>
    cases c' with
    | updateUser id' changes' =>
      have htexts :
          some email.text = changes'.email.map (·.text) ↔ changes'.email = some email := by
        rw [eq_comm, Option.map_eq_some_iff]
        simp [Email.text_injective.eq_iff]
      have heq : id = id' ∧ changes = changes' := by
        simp only [Client.statements, List.mem_singleton, Statement.updateUser.injEq, Id.toRow_inj,
          htexts, ← hemail] at hs
        cases changes
        cases changes'
        simpa [eq_comm] using hs
      obtain ⟨rfl, rfl⟩ := heq
      exact .updateUser id hemail
    | _ => simp [Client.statements] at hs
  | createPost new =>
    cases c' with
    | createPost new' =>
      have heq : new = new' := by
        simp only [Client.statements, List.mem_singleton, Statement.insertPost.injEq,
          Id.toRow_inj] at hs
        cases new
        cases new'
        simpa using hs
      exact heq ▸ .createPost new
    | _ => simp [Client.statements] at hs
  | @updatePost id changes author hauthor =>
    cases c' with
    | updatePost id' changes' =>
      have hrows :
          some author.toRow = changes'.author.map (·.toRow) ↔ changes'.author = some author := by
        rw [eq_comm, Option.map_eq_some_iff]
        simp [Id.toRow_inj]
      have heq : id = id' ∧ changes = changes' := by
        simp only [Client.statements, List.mem_singleton, Statement.updatePost.injEq, Id.toRow_inj,
          hrows, ← hauthor] at hs
        cases changes
        cases changes'
        simpa [eq_comm] using hs
      obtain ⟨rfl, rfl⟩ := heq
      exact .updatePost id hauthor
    | _ => simp [Client.statements] at hs

namespace Client

/-- The session sends some of the statements. If one is refused, it ends with the conflict that this
is or with an error of the database, and it comes to a conflict in no other way. -/
structure Honest (statements : List Statement) (conflict : Refusal → Option StoreError)
    (k : Session α) : Prop where
  sends : ∀ {σ : Type} (reply : (s : Statement) → σ → s.Reply × σ) state,
    ∀ x ∈ k.run.record reply state, x.1 ∈ statements
  refused : ∀ {σ : Type} (reply : (s : Statement) → σ → s.Reply × σ) state s r,
    ⟨s, .error r⟩ ∈ k.run.record reply state →
    (attempt reply k state).1 = .error ((conflict r).getD (.database (.refused r)))
  only : ∀ {σ : Type} (reply : (s : Statement) → σ → s.Reply × σ) state e,
    (attempt reply k state).1 = .error e → Internal e ∨
      ∃ s r, ⟨s, .error r⟩ ∈ k.run.record reply state ∧ conflict r = some e

variable {conflict : Refusal → Option StoreError} {statements statements' : List Statement}

theorem honest_pure (a : α) : Honest statements conflict (pure a) :=
  ⟨fun _ _ => nofun, fun _ _ _ _ => nofun, fun _ _ _ => nofun⟩

theorem honest_exchange {read : s.Answer → Except StoreError α} (h : ∀ answer, Sound (read answer)) :
    Honest [s] conflict (exchange conflict s read) where
  sends reply state x hx := by
    rw [List.mem_singleton.1 hx]
    exact List.mem_singleton_self s
  refused reply state s' r hr := by
    obtain ⟨rfl, hreply⟩ := Sigma.mk.inj_iff.1 (List.mem_singleton.1 hr)
    change received conflict read (reply s' state).1 = _
    rw [← eq_of_heq hreply]
    rfl
  only reply state e he := by
    change received conflict read (reply s state).1 = _ at he
    change _ ∨ ∃ s' r, ⟨s', .error r⟩ ∈ [(⟨s, (reply s state).1⟩ : Sent)] ∧ _
    cases hreply : (reply s state).1 with
    | ok answer =>
      rw [hreply] at he
      exact .inl (h answer e he)
    | error r =>
      rw [hreply] at he
      have herror : (conflict r).getD (.database (.refused r)) = e := by
        cases he
        rfl
      cases hconflict : conflict r with
      | none =>
        rw [hconflict] at herror
        exact .inl (.inl ⟨_, herror.symm⟩)
      | some e' =>
        rw [hconflict] at herror
        exact .inr ⟨s, r, List.mem_singleton_self _, hconflict.trans (congrArg some herror)⟩

theorem Honest.bind {k : Session α} {f : α → Session β} (hk : Honest statements conflict k)
    (hf : ∀ a, Honest statements' conflict (f a)) :
    Honest (statements ++ statements') conflict (k >>= f) where
  sends reply state x hx := by
    rw [record_attempt_bind] at hx
    rcases List.mem_append.1 hx with hx | hx
    · exact List.mem_append_left _ (hk.sends reply state x hx)
    · split at hx
      · exact List.mem_append_right _ ((hf _).sends reply _ x hx)
      · cases hx
  refused reply state s r hr := by
    have hrefused := hk.refused reply state s r
    rw [record_attempt_bind] at hr
    rw [attempt_bind]
    cases hfirst : attempt reply k state with
    | mk outcome later =>
      rw [hfirst] at hr hrefused
      cases outcome with
      | ok a =>
        rcases List.mem_append.1 hr with hr | hr
        · cases hrefused hr
        · exact (hf a).refused reply later s r hr
      | error e =>
        rw [List.append_nil] at hr
        cases hrefused hr
        rfl
  only reply state e he := by
    have honly := hk.only reply state e
    rw [record_attempt_bind]
    rw [attempt_bind] at he
    cases hfirst : attempt reply k state with
    | mk outcome later =>
      rw [hfirst] at he honly
      cases outcome with
      | ok a =>
        obtain hinternal | ⟨s, r, hmem, hconflict⟩ := (hf a).only reply later e he
        · exact .inl hinternal
        · exact .inr ⟨s, r, List.mem_append_right _ hmem, hconflict⟩
      | error e' =>
        rw [List.append_nil]
        cases he
        exact honly rfl

def conflict? : Call → Refusal → Option StoreError
  | .createUser new => onKey emailKey (some (.emailTaken new.email))
  | .updateUser _ changes => onKey emailKey (changes.email.map .emailTaken)
  | .createPost new => onKey authorKey (some (.unknownAuthor new.author))
  | .updatePost _ changes => onKey authorKey (changes.author.map .unknownAuthor)
  | _ => fun _ => none

theorem honest_perform (c : Call) : Honest (Client.statements c) (conflict? c) (perform c) := by
  cases c with
  | listUsers =>
    rw [perform, listUsers_eq]
    exact honest_exchange sound_readUsers
  | fetchUser id =>
    rw [perform, fetchUser_eq]
    exact honest_exchange (sound_head? UserRow.sound_read)
  | createUser new =>
    rw [perform, createUser_eq]
    exact honest_exchange fun rows => (sound_first rows).bind UserRow.sound_read
  | updateUser id changes =>
    rw [perform, updateUser_eq]
    exact honest_exchange (sound_head? UserRow.sound_read)
  | deleteUser id =>
    rw [perform, deleteUser_eq]
    exact honest_exchange fun _ => sound_ok _
  | listPosts =>
    rw [perform, listPosts_eq]
    exact honest_exchange sound_readPosts
  | fetchPost id =>
    rw [perform, fetchPost_eq]
    exact honest_exchange (sound_head? PostRow.sound_read)
  | fetchUserPosts id =>
    rw [perform, fetchUserPosts_eq]
    refine (honest_exchange (s := .userExists id.toRow) sound_readExists).bind fun found => ?_
    cases found with
    | false => exact honest_pure none
    | true => exact honest_exchange fun rows => (sound_readPosts rows).map some
  | createPost new =>
    rw [perform, createPost_eq]
    exact honest_exchange fun rows => (sound_first rows).bind PostRow.sound_read
  | updatePost id changes =>
    rw [perform, updatePost_eq]
    exact honest_exchange (sound_head? PostRow.sound_read)
  | deletePost id =>
    rw [perform, deletePost_eq]
    exact honest_exchange fun _ => sound_ok _

theorem onKey_eq_some {key : String} {conflict? : Option StoreError} :
    onKey key conflict? r = some e ↔ r.constraint = some key ∧ conflict? = some e := by
  unfold onKey
  split
  case isTrue h => simp [h]
  case isFalse h => simp [h]

theorem conflict?_of_conflict (h : Conflict c s k e) (hr : r.constraint = some k.name) :
    conflict? c r = some e := by
  cases h with
  | createUser new => exact onKey_eq_some.2 ⟨hr, rfl⟩
  | updateUser id hemail => exact onKey_eq_some.2 ⟨hr, Option.map_eq_some_iff.2 ⟨_, hemail, rfl⟩⟩
  | createPost new => exact onKey_eq_some.2 ⟨hr, rfl⟩
  | updatePost id hauthor => exact onKey_eq_some.2 ⟨hr, Option.map_eq_some_iff.2 ⟨_, hauthor, rfl⟩⟩

theorem conflict_of_conflict? (h : conflict? c r = some e) (hs : s ∈ Client.statements c) :
    ∃ k : Constraint, Conflict c s k e ∧ r.constraint = some k.name := by
  cases c with
  | createUser new =>
    obtain ⟨hr, heq⟩ := onKey_eq_some.1 h
    cases heq
    cases List.mem_singleton.1 hs
    exact ⟨.email, .createUser new, hr⟩
  | updateUser id changes =>
    obtain ⟨hr, heq⟩ := onKey_eq_some.1 h
    obtain ⟨email, hemail, rfl⟩ := Option.map_eq_some_iff.1 heq
    cases List.mem_singleton.1 hs
    rw [hemail]
    exact ⟨.email, .updateUser id hemail, hr⟩
  | createPost new =>
    obtain ⟨hr, heq⟩ := onKey_eq_some.1 h
    cases heq
    cases List.mem_singleton.1 hs
    exact ⟨.author, .createPost new, hr⟩
  | updatePost id changes =>
    obtain ⟨hr, heq⟩ := onKey_eq_some.1 h
    obtain ⟨author, hauthor, rfl⟩ := Option.map_eq_some_iff.1 heq
    cases List.mem_singleton.1 hs
    rw [hauthor]
    exact ⟨.author, .updatePost id hauthor, hr⟩
  | _ => cases h

theorem statement_mem {reply : (s : Statement) → σ → s.Reply × σ} {state : σ} {x : Sent}
    (hx : x ∈ sentFor reply state c) : x.1 ∈ Client.statements c :=
  (honest_perform c).sends reply state x hx

section Calls

variable (reply : (s : Statement) → σ → s.Reply × σ) (state : σ)

theorem names_conflicts (c : Call) : NamesConflicts reply state c := by
  have honest := honest_perform c
  have hconflict (e : StoreError) (he : e.IsConflict) : (answering reply c state).1 = .error e ↔
      ∃ s k r, Conflict c s k e ∧ ⟨s, .error r⟩ ∈ sentFor reply state c ∧
        r.constraint = some k.name := by
    constructor
    · intro herror
      obtain hinternal | ⟨s, r, hmem, hconflict⟩ := honest.only reply state e herror
      · exact absurd he hinternal.not_conflict
      · obtain ⟨k, hk, hr⟩ := conflict_of_conflict? hconflict (honest.sends reply state _ hmem)
        exact ⟨s, k, r, hk, hmem, hr⟩
    · rintro ⟨s, k, r, hk, hmem, hr⟩
      have hrefused := honest.refused reply state s r hmem
      rwa [conflict?_of_conflict hk hr] at hrefused
  refine ⟨hconflict, ?_, ?_⟩
  · intro s r hmem hunrelated
    have hrefused := honest.refused reply state s r hmem
    cases hconflict : conflict? c r with
    | none => rwa [hconflict] at hrefused
    | some e =>
      obtain ⟨k, hk, hr⟩ := conflict_of_conflict? hconflict (honest.sends reply state _ hmem)
      exact absurd hr (hunrelated c k e hk)
  · intro hplain e he herror
    obtain ⟨s, k, r, hk, -, -⟩ := (hconflict e he).1 herror
    rw [hk.not_isPlain] at hplain
    cases hplain

end Calls

end Client

end Sql

end Bulletin
