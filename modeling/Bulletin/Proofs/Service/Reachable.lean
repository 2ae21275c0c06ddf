import Bulletin.Proofs.Service.Unchanged

namespace Bulletin.Memory

open Handler

variable {now : Timestamp} {m m' : Memory}

theorem code_of_success {c : Call} {status : Status} (h : c.success? = some status) :
    status.code ∈ [200, 201, 204] := by
  unfold Call.success? at h
  split at h <;> cases h <;> decide

theorem code_of_settled {outcome : Except ServiceError Response}
    (h : Settled now m (outcome, m'))
    (hfaultless : ∀ e, outcome = .error e → e.status ≠ .internalError) :
    (Service.ofOutcome outcome).status.code ∈ [200, 201, 204, 400, 404, 405] := by
  cases outcome with
  | error e =>
    change e.status.code ∈ _
    cases hstatus : e.status with
    | internalError => exact absurd hstatus (hfaultless e rfl)
    | _ => decide
  | ok r =>
    cases h with
    | shown hr =>
      change r.status.code ∈ _
      rcases hr with hr | hr <;> rw [hr] <;> decide
    | written _ hstatus => exact List.mem_append_left _ (code_of_success hstatus)

/-- Over every store that requests lead to, every request is answered by a success or by one of the
refusals; no error of the service itself comes up. The clock shows years of four digits, as do the
times that are stamped where it stands still. -/
theorem answered_without_fault (requests : List (Timestamp × Request)) (now : Timestamp)
    (request : Request)
    (hclock : ∀ t ∈ Timestamp.stamped (requests.map (·.1) ++ [now]), t.Writable 0) :
    ((served {} requests).answer now request).1.status.code ∈ [200, 201, 204, 400, 404, 405] ∧
      ∀ e, ((Service.handle request).on now (served {} requests)).1 = .error e →
        (∀ d, e ≠ .orphan d) ∧ (∀ fault, e ≠ .store fault) ∧ ∀ reason, e ≠ .unwritable reason := by
  obtain ⟨hm, hd⟩ := dated_of_requests requests
  rw [Timestamp.stamped_append] at hclock
  have hw : (served {} requests).Writable 0 := (hd.tick now).writable hclock
  have hw' := (answer_dated hm hd now request).writable hclock
  have hsettled := settled_handle hm now request
  rw [answer_eq] at hw'
  rw [answer_eq, status_trimmed]
  generalize (Service.handle request).on now (served {} requests) = outcome at hw' hsettled
  obtain ⟨outcome, m'⟩ := outcome
  have hfaultless : ∀ e, outcome = .error e → e.status ≠ .internalError := by
    rintro e rfl
    exact hsettled.faultless hm hw hw'
  refine ⟨code_of_settled hsettled hfaultless, fun e he => ?_⟩
  have hstatus := hfaultless e he
  refine ⟨?_, ?_, ?_⟩ <;> rintro _ rfl <;> exact hstatus rfl

theorem answered_at_the_end_of_years :
    let last : Timestamp := ⟨2932897 * Timestamp.dayLength - 2, 0⟩
    let renamed : Request := {
      method := "PATCH"
      uri := { path := "/users/1" }
      contentType := some "application/json"
      body := utf8 "\x7b\"first_name\": \"Augusta\"\x7d" }
    (∀ t ∈ Timestamp.stamped [last, ⟨last.instant + 1, 0⟩], t.Writable 0) ∧
      ((served {} [(last, newAda)]).answer ⟨last.instant + 1, 0⟩ renamed).1.status = .ok ∧
      ((served {} [(last, newAda)]).answer ⟨last.instant + 1, 0⟩ renamed).1.status.code ∈
        [200, 201, 204, 400, 404, 405] := by
  intro last renamed
  have hclock : ∀ t ∈ Timestamp.stamped [last, ⟨last.instant + 1, 0⟩], t.Writable 0 := by
    simp only [Timestamp.writable_iff]
    decide
  refine ⟨hclock, by decide +kernel, ?_⟩
  exact (answered_without_fault [(last, newAda)] ⟨last.instant + 1, 0⟩ renamed hclock).1

end Bulletin.Memory
