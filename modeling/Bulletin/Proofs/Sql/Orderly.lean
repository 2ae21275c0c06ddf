import Mathlib.Data.List.Induction
import Bulletin.Proofs.Service.Eval
import Bulletin.Proofs.Sql.Received
import Bulletin.Sql.Sent
import Bulletin.Store.History

namespace Bulletin.Sql

open Client

variable {α β : Type} {n : Nat} {log : List Sent}

theorem Statement.text_mem_texts (s : Statement) : s.text ∈ Statement.texts := by
  apply List.mem_iff_getElem?.2
  cases s with
  | listUsers => exact ⟨0, rfl⟩
  | fetchUser => exact ⟨1, rfl⟩
  | insertUser => exact ⟨2, rfl⟩
  | updateUser => exact ⟨3, rfl⟩
  | deleteUser => exact ⟨4, rfl⟩
  | userExists => exact ⟨5, rfl⟩
  | listPosts => exact ⟨6, rfl⟩
  | fetchPost => exact ⟨7, rfl⟩
  | listUserPosts => exact ⟨8, rfl⟩
  | insertPost => exact ⟨9, rfl⟩
  | updatePost => exact ⟨10, rfl⟩
  | deletePost => exact ⟨11, rfl⟩

theorem Sent.isWrite_of_wrote {x : Sent} (h : x.wrote) : x.1.isWrite := by
  obtain ⟨s, reply⟩ := x
  cases reply with
  | error r => cases h
  | ok answer => cases s <;> first | rfl | cases h

/-- Nothing has failed, and `n` of the statements were to write. -/
structure Passed (n : Nat) (log : List Sent) : Prop where
  read : ∀ x ∈ log, x.failed = false
  writes : log.countP (·.1.isWrite) = n

theorem passed_nil : Passed 0 [] := ⟨nofun, rfl⟩

theorem countP_concat (x : Sent) :
    (log ++ [x]).countP (·.1.isWrite) = log.countP (·.1.isWrite) + x.1.isWrite.toNat := by
  rw [List.countP_append, List.countP_singleton]
  cases x.1.isWrite <;> rfl

namespace Passed

theorem concat (h : Passed n log) {s : Statement} {answer : s.Answer} (hread : s.reads answer) :
    Passed (n + s.isWrite.toNat) (log ++ [⟨s, .ok answer⟩]) where
  read x hx := by
    rcases List.mem_append.1 hx with hx | hx
    · exact h.read x hx
    · cases List.mem_singleton.1 hx
      simp [Sent.failed, hread]
  writes := by rw [countP_concat, h.writes]

theorem not_wrote (h : Passed 0 log) : ∀ x ∈ log, x.wrote = false := by
  intro x hx
  have hnot := List.countP_eq_zero.1 h.writes x hx
  exact Bool.eq_false_iff.2 fun hwrote => hnot (Sent.isWrite_of_wrote hwrote)

theorem not_wrote_concat (h : Passed 0 log) {x : Sent} (hx : x.wrote = false) :
    ∀ y ∈ log ++ [x], y.wrote = false := by
  intro y hy
  rcases List.mem_append.1 hy with hy | hy
  · exact h.not_wrote y hy
  · cases List.mem_singleton.1 hy
    exact hx

theorem orderly_concat (h : Passed n log) (x : Sent) (hn : n + x.1.isWrite.toNat ≤ 1) :
    Orderly (log ++ [x]) where
  fixed y _ := y.1.text_mem_texts
  oneWrite := by
    rw [countP_concat, h.writes]
    exact hn
  stops before y after heq hfailed := by
    induction after using List.reverseRecOn with
    | nil => rfl
    | append_singleton after z _ =>
      rw [← List.cons_append, ← List.append_assoc] at heq
      have hy : y ∈ log := by
        rw [(List.append_inj' heq rfl).1]
        simp
      rw [h.read y hy] at hfailed
      cases hfailed

theorem orderly (h : Passed n log) (hn : n ≤ 1) : Orderly log where
  fixed y _ := y.1.text_mem_texts
  oneWrite := Nat.le_trans (Nat.le_of_eq h.writes) hn
  stops before y after heq hfailed := by
    have hy : y ∈ log := by simp [heq]
    rw [h.read y hy] at hfailed
    cases hfailed

end Passed

/-- What a failure leaves behind: if the client is told to be at fault, nothing was written. -/
structure Harmless (e : ServiceError) (log : List Sent) : Prop where
  orderly : Orderly log
  harmless : e.status ≠ .internalError → ∀ x ∈ log, x.wrote = false

theorem Internal.harmless {e : StoreError} (h : Internal e) (horderly : Orderly log) :
    Harmless (.ofStore e) log := by
  refine ⟨horderly, fun hstatus => absurd ?_ hstatus⟩
  obtain ⟨_, rfl⟩ | ⟨_, rfl⟩ := h <;> rfl

theorem UserRow.isReadable_of_read {row : UserRow} {user : User} (h : row.read = .ok user) :
    row.isReadable := by
  cases hdecode : row.decode with
  | error e =>
    rw [read, hdecode] at h
    cases h
  | ok record =>
    cases huser : record.toUser with
    | error e =>
      rw [read, hdecode] at h
      change record.toUser.mapError StoreError.data = _ at h
      rw [huser] at h
      cases h
    | ok user' => simp [isReadable, hdecode, huser, Except.toOption]

theorem PostRow.isReadable_of_read {row : PostRow} {post : Post} (h : row.read = .ok post) :
    row.isReadable := by
  cases hdecode : row.decode with
  | error e =>
    rw [read, hdecode] at h
    cases h
  | ok record => simp [isReadable, hdecode, Except.toOption]

theorem all_of_readUsers {rows : List UserRow} {users : List User}
    (h : readUsers rows = .ok users) :
    rows.all UserRow.isReadable := by
  have hfaultless := (AllOrNothing.of_decided (decided_readUsers rows)).listed.1 ⟨users, h⟩
  refine List.all_eq_true.2 fun row hrow => ?_
  have hdecided := row.decided_read
  rw [(hfaultless row hrow).1, (hfaultless row hrow).2] at hdecided
  obtain ⟨user, hread, -⟩ := hdecided.exists_ok
  exact UserRow.isReadable_of_read hread

theorem all_of_readPosts {rows : List PostRow} {posts : List Post}
    (h : readPosts rows = .ok posts) :
    rows.all PostRow.isReadable := by
  have hfaultless := (AllOrNothing.of_nulls (decided_readPosts rows)).listed.1 ⟨posts, h⟩
  refine List.all_eq_true.2 fun row hrow => ?_
  have hdecided := row.decided_read
  rw [(hfaultless row hrow).1] at hdecided
  obtain ⟨post, hread, -⟩ := hdecided.exists_ok
  exact PostRow.isReadable_of_read hread

namespace Client

/-- The session ends as is asked for, or it fails and has done no harm. -/
def Ends (Q : α → List Sent → Prop) (k : Session α) (log : List Sent) : Prop :=
  Dialogue.Brings (fun e log => Harmless (.ofStore e) log) Q k log

section Rows

variable {isReadable : β → Bool} {read : β → Except StoreError α}
variable (hread : ∀ {row a}, read row = .ok a → isReadable row) {rows : List β}
include hread

theorem any_of_first {a : α} (h : (first rows >>= read) = .ok a) : rows.head?.any isReadable := by
  cases rows with
  | nil => cases h
  | cons row rows => exact hread h

theorem all_of_head? {a? : Option α} (h : rows.head?.mapM read = .ok a?) :
    rows.head?.all isReadable := by
  obtain ⟨rfl, -⟩ | ⟨row, rest, a, rfl, -, hrow⟩ := head?_ok h
  · rfl
  · exact hread hrow

end Rows

section Exchange

variable {conflict : Refusal → Option StoreError} {s : Statement}
variable {read : s.Answer → Except StoreError α} {Q : α → List Sent → Prop}
variable (hreads : ∀ {answer a}, read answer = .ok a → s.reads answer)
variable (hsound : ∀ answer, Sound (read answer))
include hreads hsound

theorem ends_ask (hs : s.isWrite = false) (h : Passed n log) (hn : n ≤ 1)
    (hQ : ∀ a log, Passed n log → Q a log) : Ends Q (exchange (fun _ => none) s read) log := by
  intro reply
  have horderly := h.orderly_concat ⟨s, reply⟩ (by rw [hs]; exact hn)
  cases reply with
  | error r => exact ⟨horderly, fun hstatus => absurd rfl hstatus⟩
  | ok answer =>
    change (Dialogue.done (read answer)).Yields _ _
    cases hread : read answer with
    | error e => exact (hsound answer e hread).harmless horderly
    | ok a =>
      have hpassed := h.concat (hreads hread)
      rw [hs] at hpassed
      exact hQ a _ hpassed

theorem ends_tell (hs : s.isWrite) (h : Passed 0 log)
    (hQ : ∀ answer a log, read answer = .ok a → Passed 1 log →
      (s.affects answer = false → ∀ x ∈ log, x.wrote = false) → Q a log) :
    Ends Q (exchange conflict s read) log := by
  intro reply
  have horderly := h.orderly_concat ⟨s, reply⟩ (by rw [hs]; exact Nat.le_refl 1)
  cases reply with
  | error r => exact ⟨horderly, fun _ => h.not_wrote_concat rfl⟩
  | ok answer =>
    change (Dialogue.done (read answer)).Yields _ _
    cases hread : read answer with
    | error e => exact (hsound answer e hread).harmless horderly
    | ok a =>
      have hpassed := h.concat (hreads hread)
      rw [hs] at hpassed
      exact hQ answer a _ hread hpassed fun haffects => h.not_wrote_concat haffects

end Exchange

theorem isSome_of_readExists {rows : List (Option Bool)} {found : Bool}
    (h : readExists rows = .ok found) : rows.head?.any Option.isSome := by
  rcases rows with - | ⟨- | found', rows⟩
  · cases h
  · cases h
  · rfl

theorem ends_fetchUserPosts (h : Passed n log) (hn : n ≤ 1) (id : UserId)
    {Q : Option (List Post) → List Sent → Prop} (hQ : ∀ posts? log, Passed n log → Q posts? log) :
    Ends Q (fetchUserPosts id) log := by
  rw [fetchUserPosts_eq]
  apply Dialogue.Brings.bind
  refine ends_ask isSome_of_readExists sound_readExists rfl h hn fun found log h => ?_
  cases found with
  | false => exact hQ none log h
  | true =>
    refine ends_ask ?_ (fun rows => (sound_readPosts rows).map some) rfl h hn hQ
    intro (rows : List PostRow) posts? hread
    cases hposts : readPosts rows with
    | error e =>
      rw [hposts] at hread
      cases hread
    | ok posts => exact all_of_readPosts hposts

theorem ends_read (h : Passed n log) (hn : n ≤ 1) {c : Call} (hc : c.Reads)
    {Q : c.Result → List Sent → Prop} (hQ : ∀ result log, Passed n log → Q result log) :
    Ends Q (perform c) log := by
  cases c with
  | listUsers =>
    rw [perform, listUsers_eq]
    exact ends_ask all_of_readUsers sound_readUsers rfl h hn hQ
  | fetchUser id =>
    rw [perform, fetchUser_eq]
    exact ends_ask (all_of_head? UserRow.isReadable_of_read) (sound_head? UserRow.sound_read) rfl h
      hn hQ
  | listPosts =>
    rw [perform, listPosts_eq]
    exact ends_ask all_of_readPosts sound_readPosts rfl h hn hQ
  | fetchPost id =>
    rw [perform, fetchPost_eq]
    exact ends_ask (all_of_head? PostRow.isReadable_of_read) (sound_head? PostRow.sound_read) rfl h
      hn hQ
  | fetchUserPosts id => exact ends_fetchUserPosts h hn id hQ
  | _ => cases hc

/-- Where a write changes nothing, nothing was written. -/
theorem ends_write (h : Passed 0 log) {c : Call} (hc : ¬ c.Reads) {Q : c.Result → List Sent → Prop}
    (hQ : ∀ result log, Passed 1 log →
      (Event.wrote ⟨c, .ok result⟩ = false → ∀ x ∈ log, x.wrote = false) → Q result log) :
    Ends Q (perform c) log := by
  cases c with
  | createUser new =>
    rw [perform, createUser_eq]
    refine ends_tell (any_of_first UserRow.isReadable_of_read)
      (fun rows => (sound_first rows).bind UserRow.sound_read) rfl h ?_
    exact fun _ user log _ h _ => hQ user log h nofun
  | updateUser id changes =>
    rw [perform, updateUser_eq]
    refine ends_tell (all_of_head? UserRow.isReadable_of_read) (sound_head? UserRow.sound_read) rfl
      h ?_
    intro rows user? log hread h hidle
    refine hQ user? log h fun hnone => hidle ?_
    obtain ⟨rfl, -⟩ | ⟨_, _, user, rfl, rfl, -⟩ := head?_ok hread
    · rfl
    · cases hnone
  | deleteUser id =>
    rw [perform, deleteUser_eq]
    refine ends_tell (fun _ => rfl) (fun _ => sound_ok _) rfl h ?_
    rintro (count : Nat) _ log ⟨⟩ h hidle
    have hwrote : Event.wrote ⟨.deleteUser id, .ok (decide (0 < count))⟩ = decide (0 < count) := by
      cases decide (0 < count) <;> rfl
    exact hQ _ log h fun hnone => hidle (hwrote.symm.trans hnone)
  | createPost new =>
    rw [perform, createPost_eq]
    refine ends_tell (any_of_first PostRow.isReadable_of_read)
      (fun rows => (sound_first rows).bind PostRow.sound_read) rfl h ?_
    exact fun _ post log _ h _ => hQ post log h nofun
  | updatePost id changes =>
    rw [perform, updatePost_eq]
    refine ends_tell (all_of_head? PostRow.isReadable_of_read) (sound_head? PostRow.sound_read) rfl
      h ?_
    intro rows post? log hread h hidle
    refine hQ post? log h fun hnone => hidle ?_
    obtain ⟨rfl, -⟩ | ⟨_, _, post, rfl, rfl, -⟩ := head?_ok hread
    · rfl
    · cases hnone
  | deletePost id =>
    rw [perform, deletePost_eq]
    refine ends_tell (fun _ => rfl) (fun _ => sound_ok _) rfl h ?_
    rintro (count : Nat) _ log ⟨⟩ h hidle
    have hwrote : Event.wrote ⟨.deletePost id, .ok (decide (0 < count))⟩ = decide (0 < count) := by
      cases decide (0 < count) <;> rfl
    exact hQ _ log h fun hnone => hidle (hwrote.symm.trans hnone)
  | _ => exact absurd trivial hc

end Client

end Bulletin.Sql
