import Bulletin.Proofs.Service.Settled

namespace Bulletin

variable {α : Type} {n : Nat} {now : Timestamp} {request : Request} {m : Memory}
variable {known : List Timestamp}

namespace Handler

theorem readOnly_withId {entity : Entity} {segment : String} {handler : Id entity → Handler α}
    (h : ∀ id, ReadOnly (handler id)) : ReadOnly (Service.withId segment handler) := by
  unfold Service.withId
  split
  · exact h _
  · exact fun _ _ => asks_throw _

theorem readOnly_handle (hverb : Verb.ofMethod? request.method = some .get) :
    ReadOnly (Service.handle request) := by
  unfold Service.handle
  split
  case h_2 => exact fun _ _ => asks_throw _
  case h_1 route _ =>
    rw [hverb]
    cases route with
    | users => exact readOnly_listUsers
    | user s => exact readOnly_withId readOnly_getUser
    | userPosts s => exact readOnly_withId readOnly_listUserPosts
    | posts => exact readOnly_listPosts
    | post s => exact readOnly_withId readOnly_getPost

end Handler

namespace Memory

open Handler

theorem answer_eq (now : Timestamp) (request : Request) (m : Memory) : m.answer now request =
    (Service.trimmed request (Service.ofOutcome ((Service.handle request).on now m).1),
      ((Service.handle request).on now m).2) :=
  Dialogue.run_bind _ _ _ _

theorem status_trimmed (r : Response) : (Service.trimmed request r).status = r.status := by
  unfold Service.trimmed
  split <;> rfl

theorem status_lt_of_success {c : Call} {status : Status} (h : c.success? = some status) :
    status.code < 400 := by
  unfold Call.success? at h
  split at h <;> cases h <;> decide

theorem answer_step (hm : m.Linked) (now : Timestamp) (request : Request) :
    ∃ e, Step now m e (m.answer now request).2 := by
  rw [answer_eq]
  exact (settled_handle hm now request).step

theorem answer_linked (hm : m.Linked) (now : Timestamp) (request : Request) :
    (m.answer now request).2.Linked := by
  obtain ⟨_, hstep⟩ := answer_step hm now request
  exact hstep.linked hm

theorem answer_writable (hm : m.Linked) (hw : m.Writable (n + 1)) (hnow : now.Writable n)
    (request : Request) : (m.answer now request).2.Writable n := by
  obtain ⟨_, hstep⟩ := answer_step hm now request
  exact hstep.writable hm hw hnow

theorem answer_dated (hm : m.Linked) (hd : m.Dated known) (now : Timestamp) (request : Request) :
    (m.answer now request).2.Dated (Timestamp.tick known now) := by
  obtain ⟨_, hstep⟩ := answer_step hm now request
  exact hstep.dated hm hd

theorem answer_refused (hm : m.Linked) (now : Timestamp) (request : Request)
    (h : 400 ≤ (m.answer now request).1.status.code) :
    (m.answer now request).2 = m ∨ (m.answer now request).1.status = .internalError ∧
      m.LeftUnshown now (m.answer now request).2 := by
  rw [answer_eq, status_trimmed] at *
  have hsettled := settled_handle hm now request
  generalize (Service.handle request).on now m = outcome at h hsettled
  cases hsettled with
  | refused => exact .inl rfl
  | shown => exact .inl rfl
  | hidden => exact .inl rfl
  | written _ hstatus => exact absurd h (Nat.not_le.2 (status_lt_of_success hstatus))
  | unshown hleft => exact .inr ⟨rfl, hleft⟩

theorem answer_read (h : Verb.ofMethod? request.method = some .get) :
    (m.answer now request).2 = m := by
  rw [answer_eq]
  exact (readOnly_handle h).on_snd now m

theorem served_dated (hm : m.Linked) (hd : m.Dated known)
    (requests : List (Timestamp × Request)) : (m.served requests).Linked ∧
      (m.served requests).Dated ((requests.map (·.1)).foldl Timestamp.tick known) := by
  induction requests generalizing m known with
  | nil => exact ⟨hm, hd⟩
  | cons reading requests ih =>
    exact ih (answer_linked hm reading.1 reading.2) (answer_dated hm hd reading.1 reading.2)

theorem dated_of_requests (requests : List (Timestamp × Request)) : (served {} requests).Linked ∧
    (served {} requests).Dated (Timestamp.stamped (requests.map (·.1))) :=
  served_dated linked_empty allTimes_empty requests

/-- A request that only asks leaves every store that requests can lead to as it is, and so does one
that is refused, with one exception: what was written at a reading of the clock that cannot be
shown is kept. -/
theorem unchanged_or_unshown (requests : List (Timestamp × Request)) (now : Timestamp)
    (request : Request) :
    let m := served {} requests
    let answer := m.answer now request
    (request.method = "GET" ∨ request.method = "HEAD" → answer.2 = m) ∧
    (400 ≤ answer.1.status.code → answer.2 = m ∨
      answer.1.status = .internalError ∧ m.LeftUnshown now answer.2) ∧
    ((∀ t ∈ Timestamp.stamped (requests.map (·.1) ++ [now]), t.Writable 0) →
      400 ≤ answer.1.status.code → answer.2 = m) := by
  intro m answer
  obtain ⟨hm, hd⟩ := dated_of_requests requests
  refine ⟨?_, answer_refused hm now request, fun hclock hrefused => ?_⟩
  · rintro (h | h) <;> exact answer_read (h ▸ rfl)
  · obtain h | ⟨-, hleft⟩ := answer_refused hm now request hrefused
    · exact h
    · rw [Timestamp.stamped_append] at hclock
      have hw := (answer_dated hm hd now request).writable hclock
      exact absurd hleft (Settled.not_leftUnshown (answer_linked hm now request) hw)

def newAda : Request where
  method := "POST"
  uri := { path := "/users" }
  contentType := some "application/json"
  body := utf8
    "\x7b\"email\": \"ada@example.com\", \"first_name\": \"Ada\", \"last_name\": \"King\"\x7d"

def beforeYears : Timestamp := ⟨-719528 * Timestamp.dayLength - 1, 0⟩

/-- A user who signs up in the year -1 is stored, though the answer is an error. -/
theorem changed_of_newAda_before_years :
    let answer := answer beforeYears newAda {}
    400 ≤ answer.1.status.code ∧ answer.1.status = .internalError ∧
      answer.2.users.values.length = 1 ∧ answer.2 ≠ {} := by
  decide +kernel

theorem unchanged_of_newAda_again :
    let m := served {} [(⟨0, 0⟩, newAda)]
    let early := served {} [(beforeYears, newAda)]
    let listing : Request := { method := "GET", uri := { path := "/users" } }
    (∀ t ∈ Timestamp.stamped [⟨0, 0⟩, ⟨0, 0⟩], t.Writable 0) ∧
    400 ≤ (m.answer ⟨0, 0⟩ newAda).1.status.code ∧ m.users.values.length = 1 ∧
    (m.answer ⟨0, 0⟩ newAda).2 = m ∧
    400 ≤ (early.answer beforeYears listing).1.status.code ∧
    (early.answer beforeYears listing).2 = early ∧
    LeftUnshown beforeYears {} (answer beforeYears newAda {}).2 := by
  intro m early listing
  have hclock : ∀ t ∈ Timestamp.stamped [⟨0, 0⟩, ⟨0, 0⟩], t.Writable 0 := by
    simp only [Timestamp.writable_iff]
    decide
  have hagain : 400 ≤ (m.answer ⟨0, 0⟩ newAda).1.status.code := by decide +kernel
  have hlisting : 400 ≤ (early.answer beforeYears listing).1.status.code := by decide +kernel
  have hearly : 400 ≤ (answer beforeYears newAda {}).1.status.code := by decide +kernel
  refine ⟨hclock, hagain, by decide +kernel, ?_, hlisting, ?_, ?_⟩
  · exact (unchanged_or_unshown [(⟨0, 0⟩, newAda)] ⟨0, 0⟩ newAda).2.2 hclock hagain
  · exact (unchanged_or_unshown [(beforeYears, newAda)] beforeYears listing).1 (.inl rfl)
  · obtain hsame | ⟨-, hleft⟩ := (unchanged_or_unshown [] beforeYears newAda).2.1 hearly
    · exact absurd hsame (by decide +kernel)
    · exact hleft

end Memory

end Bulletin
