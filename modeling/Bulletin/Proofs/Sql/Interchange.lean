import Bulletin.Proofs.Service.Timeless
import Bulletin.Proofs.Sql.Fit
import Bulletin.Proofs.Sql.Listed

/-!
The two stores behind the service. A database is followed by a store in memory that reads the same
clock and is kept by the tables; that store and the one with a clock of its own differ in times.
-/

namespace Bulletin

def Response.created (r : Response) : Bool := r.status = .created

namespace Memory

variable {n : Nat} {now : Timestamp} {e : Event} {m m' : Memory}

def issued (m : Memory) : Nat := m.users.last.toNat + m.posts.last.toNat

theorem toNat_next_le (last : UInt64) : (last + 1).toNat ≤ last.toNat + 1 := by
  rw [UInt64.toNat_add]
  exact Nat.mod_le _ _

theorem answer_issued (hm : m.Linked) (hw : m.Writable (n + 1)) (hnow : now.Writable n)
    (request : Request) : (m.answer now request).2.issued ≤
      m.issued + if (m.answer now request).1.created then 1 else 0 := by
  have hlinked := answer_linked hm now request
  have hw' := (answer_writable hm hw hnow request).mono (Nat.zero_le n)
  rw [answer_eq] at hlinked hw' ⊢
  rw [Response.created, status_trimmed]
  have hsettled := Handler.settled_handle hm now request
  generalize (Service.handle request).on now m = outcome at hlinked hw' hsettled
  cases hsettled with
  | refused => exact Nat.le_add_right _ _
  | shown => exact Nat.le_add_right _ _
  | hidden => exact Nat.le_add_right _ _
  | unshown h => exact absurd h (Handler.Settled.not_leftUnshown hlinked hw')
  | @written c r result m' hexec hstatus =>
    cases Handler.step_of_exec hexec with
    | idle => exact Nat.le_add_right _ _
    | createUser =>
      have hcreated : r.status = .created := (Option.some.inj hstatus).symm
      have hnext := toNat_next_le m.users.last
      simp only [Service.ofOutcome, hcreated, decide_true, if_true, issued, Table.add]
      omega
    | createPost =>
      have hcreated : r.status = .created := (Option.some.inj hstatus).symm
      have hnext := toNat_next_le m.posts.last
      simp only [Service.ofOutcome, hcreated, decide_true, if_true, issued, Table.add]
      omega
    | updateUser => exact Nat.le_add_right _ _
    | deleteUser => exact Nat.le_add_right _ _
    | updatePost => exact Nat.le_add_right _ _
    | deletePost => exact Nat.le_add_right _ _

end Memory

namespace Sql

variable {db : Database} {n : Nat} {now : Timestamp} {now' : Int64} {m m' : Memory} {s : db.State}

theorem answerRequest_eq (hkept : Kept m (db.tables s)) (hw : m.Writable 1)
    (hnow : (Timestamp.ofRow now').Writable n) {request : Request}
    (hroom : Handler.Room (.ofRow now') m (Service.handle request)) :
    (db.answerRequest now' request s).1 = (m.answer (.ofRow now') request).1 ∧
      Kept (m.answer (.ofRow now') request).2 (db.tables (db.answerRequest now' request s).2) := by
  have hfit := Handler.fit_handle hkept.sound.toLinked hw hnow hroom
  apply run_overDatabase hkept
  exact Dialogue.Along.bind hfit trivial

/-- A database with a store in memory beside it, and the store that its tables keep. -/
structure Beside (m m' : Memory) (t : Tables) (n : Nat) : Prop where
  kept : Kept m' t
  same : m'.timeless = m.timeless
  linked : m.Linked
  writable : m.Writable n
  writable' : m'.Writable n

theorem Beside.answer (h : Beside m m' (db.tables s) (n + 1)) (hnow : now.Writable n)
    (hnow' : (Timestamp.ofRow now').Writable n) (request : Request)
    (hroom : (m.answer now request).1.created → m.issued + 1 < 2 ^ 63) :
    (db.answerRequest now' request s).1.Alike (m.answer now request).1 ∧
      Beside (m.answer now request).2 (m'.answer (.ofRow now') request).2
        (db.tables (db.answerRequest now' request s).2) n := by
  have hlinked' := h.kept.sound.toLinked
  obtain ⟨halike, hsame⟩ := Memory.answer_alike hlinked' h.writable' hnow' h.linked h.writable hnow
    h.same request
  have hroom' : Handler.Room (.ofRow now') m' (Service.handle request) := by
    intro r hr hcreated
    rw [Memory.answer_eq, hr] at halike
    have hstatus := halike.status
    rw [Memory.status_trimmed] at hstatus
    have := hroom (by simpa [Response.created] using hstatus.symm.trans hcreated)
    rw [Table.last_congr (Memory.users_timeless h.same),
      Table.last_congr (Memory.posts_timeless h.same)]
    simp only [Memory.issued] at this
    omega
  have hone := h.writable'.mono (Nat.le_add_left 1 n)
  obtain ⟨hresponse, hkept⟩ := answerRequest_eq h.kept hone hnow' hroom'
  exact ⟨hresponse ▸ halike, {
    kept := hkept
    same := hsame
    linked := Memory.answer_linked h.linked now request
    writable := Memory.answer_writable h.linked h.writable hnow request
    writable' := Memory.answer_writable hlinked' h.writable' hnow' request }⟩

theorem Beside.responses {requests : List (Timestamp × Int64 × Request)}
    (h : Beside m m' (db.tables s) requests.length)
    (hclock : ∀ x ∈ requests, x.1.Writable requests.length ∧
      (Timestamp.ofRow x.2.1).Writable requests.length)
    (hroom : m.issued +
      (m.responses (requests.map fun x => (x.1, x.2.2))).countP Response.created < 2 ^ 63) :
    List.Forall₂ Response.Alike (db.responses s (requests.map (·.2)))
      (m.responses (requests.map fun x => (x.1, x.2.2))) := by
  induction requests generalizing m m' s with
  | nil => exact .nil
  | cons x requests ih =>
    obtain ⟨now, now', request⟩ := x
    obtain ⟨hnow, hnow'⟩ : now.Writable _ ∧ (Timestamp.ofRow now').Writable _ :=
      hclock _ List.mem_cons_self
    simp only [List.map_cons, Memory.responses, List.countP_cons] at hroom
    have hle : requests.length ≤ requests.length + 1 := Nat.le_succ _
    obtain ⟨halike, hnext⟩ := h.answer (hnow.mono hle) (hnow'.mono hle) request fun hcreated => by
      rw [if_pos hcreated] at hroom
      omega
    -- Each creation takes one from the budget of ids, and nothing else does.
    refine .cons halike (ih hnext ?_ ?_)
    · intro y hy
      obtain ⟨hnow, hnow'⟩ := hclock y (List.mem_cons_of_mem _ hy)
      exact ⟨hnow.mono hle, hnow'.mono hle⟩
    · have hissued := Memory.answer_issued h.linked h.writable (hnow.mono hle) request
      change (m.answer now request).2.issued +
        ((m.answer now request).2.responses _).countP Response.created < _
      omega

/-- Over a database with fresh tables, the service responds as over an empty store in memory. Both
clocks have to stay in the years that can be written, with a microsecond to spare for each request,
and a database runs out of ids after `2 ^ 63` creations. -/
theorem interchangeable (db : Database) (fresh : db.State) (hfresh : db.tables fresh = {})
    (requests : List (Timestamp × Int64 × Request))
    (hclock : ∀ x ∈ requests, x.1.Writable requests.length ∧
      (Timestamp.ofRow x.2.1).Writable requests.length)
    (hcreates :
      (Memory.responses {} (requests.map fun x => (x.1, x.2.2))).countP Response.created < 2 ^ 63) :
    List.Forall₂ Response.Alike (db.responses fresh (requests.map (·.2)))
      (Memory.responses {} (requests.map fun x => (x.1, x.2.2))) := by
  have hempty : Beside {} {} (db.tables fresh) requests.length := by
    rw [hfresh]
    exact ⟨kept_empty, rfl, Memory.linked_empty, Memory.allTimes_empty, Memory.allTimes_empty⟩
  apply hempty.responses hclock
  simpa [Memory.issued] using hcreates

def visit : List (Timestamp × Int64 × Request) := [
  (⟨0, 0⟩, 5, Memory.newAda),
  (⟨7, 0⟩, 5, Memory.newAda),
  (⟨7, 0⟩, 6, { method := "GET", uri := { path := "/users" } }),
  (⟨8, 0⟩, 6, { method := "DELETE", uri := { path := "/users/1" } })]

theorem interchangeable_visit : Listed.database.tables ({} : Listed) = {} ∧
    (∀ x ∈ visit, x.1.Writable 4 ∧ (Timestamp.ofRow x.2.1).Writable 4) ∧
    (Memory.responses {} (visit.map fun x => (x.1, x.2.2))).map (·.status) =
      [.created, .badRequest, .ok, .noContent] ∧
    (Memory.responses {} (visit.map fun x => (x.1, x.2.2))).countP Response.created < 2 ^ 63 ∧
    List.Forall₂ Response.Alike (Listed.database.responses ({} : Listed) (visit.map (·.2)))
      (Memory.responses {} (visit.map fun x => (x.1, x.2.2))) := by
  have hclock : ∀ x ∈ visit, x.1.Writable 4 ∧ (Timestamp.ofRow x.2.1).Writable 4 := by
    simp only [Timestamp.writable_iff, visit]
    decide
  have hcreates : (Memory.responses {} (visit.map fun x => (x.1, x.2.2))).countP
      Response.created < 2 ^ 63 := by decide +kernel
  refine ⟨rfl, hclock, by decide +kernel, hcreates, ?_⟩
  exact interchangeable Listed.database ({} : Listed) rfl visit hclock hcreates

end Sql

end Bulletin
