import Bulletin.Proofs.Service.Changed
import Bulletin.Proofs.Service.Combined
import Bulletin.Proofs.Service.ReadBack
import Bulletin.Proofs.Service.Reported
import Bulletin.Proofs.Store.Promised
import Bulletin.Service.Staged

namespace Bulletin

variable {entity : Entity} {α : Type} {now : Timestamp} {m m' : Memory} {mode : Intent}
variable {request : Request} {segment : String} {payload : Json.Members}

theorem Segment.names_unique {id id' : Id entity} (h : Names segment id.number)
    (h' : Names segment id'.number) : id = id' := by
  have hid : Service.idOfSegment segment = .ok id := idOfSegment_of_names h
  rw [idOfSegment_of_names h'] at hid
  exact (Except.ok.inj hid).symm

theorem Request.announcesJson_iff : request.AnnouncesJson ↔
    request.contentType.any (MediaType.announcesJson <| utf8 ·) := by
  rw [Request.AnnouncesJson]
  cases request.contentType <;> simp

theorem BodyFault.of_iff {fault : BodyFault} :
    fault.Of request ↔ Service.payload request = .error fault := by
  have hjson := request.announcesJson_iff
  rw [Service.payload]
  cases hany : request.contentType.any (MediaType.announcesJson <| utf8 ·) with
  | false =>
    rw [hany] at hjson
    cases fault <;> simp [BodyFault.Of, hjson]
  | true =>
    rw [hany] at hjson
    by_cases hlength : Service.maxBodyLength < request.body.length
    · cases fault <;> simp [BodyFault.Of, hjson, hlength, Nat.not_le.2 hlength]
    · cases hbody : Json.readObject request.body <;> cases fault <;>
        simp [BodyFault.Of, hjson, hlength, hbody, Except.mapError, Nat.not_lt.1 hlength]

namespace Editing

variable {k : Editing entity α} {stage stage' : Stage} {e e' : ServiceError}

theorem not_fails_path {n : UInt64} (h : Segment.Names segment n) :
    ¬ k.Fails m mode request segment .path e := by
  rintro ⟨fault, hfault, -⟩
  exact Segment.not_fault (fun _ hsegment => ⟨n, Option.some.inj hsegment ▸ h⟩) rfl hfault

section Read

variable (hpayload : Service.payload request = .ok payload)
include hpayload

theorem not_fails_body : ¬ k.Fails m mode request segment .body e := by
  rintro ⟨fault, hfault, -⟩
  rw [BodyFault.of_iff, hpayload] at hfault
  cases hfault

theorem not_fails_members (hnil : k.offences mode payload = []) :
    ¬ k.Fails m mode request segment .members e := by
  rintro ⟨payload', hpayload', hoffences, -⟩
  cases hpayload.symm.trans hpayload'
  exact hoffences hnil

theorem not_fails_conflict {id : Id entity} (hid : Segment.Names segment id.number)
    (hfree : ∀ e, ¬ k.Conflict m id mode payload e) :
    ¬ k.Fails m mode request segment .conflict e := by
  rintro ⟨id', payload', hid', hpayload', hconflict⟩
  cases hpayload.symm.trans hpayload'
  cases Segment.names_unique hid hid'
  exact hfree e hconflict

end Read

theorem not_fails_presence {id : Id entity} {old : α} (hid : Segment.Names segment id.number)
    (hfound : (k.table m).get? id = some old) :
    ¬ k.Fails m mode request segment .presence e := by
  rintro ⟨id', hid', hnone, -⟩
  cases Segment.names_unique hid hid'
  cases hfound.symm.trans hnone

theorem Stage.eq_of_rank (h : stage.rank = stage'.rank) : stage = stage' := by
  revert h
  cases stage <;> cases stage' <;> decide

def Clear (k : Editing entity α) (m : Memory) (mode : Intent) (request : Request)
    (segment : String) (stage : Stage) : Prop :=
  ∀ earlier, earlier.rank < stage.rank → ∀ e, ¬ k.Fails m mode request segment earlier e

theorem clear_path : k.Clear m mode request segment .path :=
  fun _ h => absurd h (Nat.not_lt_zero _)

theorem Clear.next (h : k.Clear m mode request segment stage)
    (hstage : ∀ e, ¬ k.Fails m mode request segment stage e)
    (hrank : stage'.rank = stage.rank + 1) : k.Clear m mode request segment stage' := by
  intro earlier hearlier
  rw [hrank] at hearlier
  obtain hlt | heq := Nat.lt_succ_iff_lt_or_eq.1 hearlier
  · exact h earlier hlt
  · exact Stage.eq_of_rank heq ▸ hstage

theorem Clear.passes (h : k.Clear m mode request segment .conflict)
    (hlast : ∀ e, ¬ k.Fails m mode request segment .conflict e) :
    k.Passes m mode request segment := by
  intro stage
  cases stage with
  | conflict => exact hlast
  | path | body | presence | members => exact h _ (by decide)

/-- What the stages come to that are about users or about posts, and that a handler goes through
them. -/
structure Served (k : Editing entity α) (m : Memory) (mode : Intent) (now : Timestamp)
    (handler : Id entity → Json.Members → Handler Response) : Prop where
  missing_status : ∀ id, (k.missing id).status = .notFound ∧ (k.missing id).Sound
  substantial : ∀ payload, k.offences mode payload ≠ [] →
    FieldErrors.Substantial ⟨k.offences mode payload⟩
  conflict_status : ∀ id payload e, k.Conflict m id mode payload e →
    e.status = .badRequest ∧ e.Sound
  conflict_unique : ∀ id payload e e', k.Conflict m id mode payload e →
    k.Conflict m id mode payload e' → e = e'
  missing : ∀ id payload, (k.table m).get? id = none →
    (handler id payload).on now m = (.error (k.missing id), m)
  offended : ∀ id payload old, (k.table m).get? id = some old → k.offences mode payload ≠ [] →
    (handler id payload).on now m = (.error (.validation ⟨k.offences mode payload⟩), m)
  conflict : ∀ id payload old e, (k.table m).get? id = some old → k.offences mode payload = [] →
    k.Conflict m id mode payload e → (handler id payload).on now m = (.error e, m)
  edited : ∀ id payload old, (k.table m).get? id = some old → k.offences mode payload = [] →
    (∀ e, ¬ k.Conflict m id mode payload e) → ∃ new m', k.Edited m now id payload m' new ∧
      (handler id payload).on now m = (Handler.respond .ok (k.shown m' new)).on now m' ∧
      ((k.shown m' new).isSome ↔ Timestamp.FourDigits [k.createdAt new, k.updatedAt new])

section Served

variable {handler : Id entity → Json.Members → Handler Response} (hk : k.Served m mode now handler)
include hk

theorem Fails.unique (h : k.Fails m mode request segment stage e)
    (h' : k.Fails m mode request segment stage e') : e = e' := by
  cases stage with
  | path =>
    obtain ⟨fault, hfault, rfl⟩ := h
    obtain ⟨fault', hfault', rfl⟩ := h'
    rw [hfault.unique hfault']
  | body =>
    obtain ⟨fault, hfault, rfl⟩ := h
    obtain ⟨fault', hfault', rfl⟩ := h'
    rw [Except.error.inj ((BodyFault.of_iff.1 hfault).symm.trans (BodyFault.of_iff.1 hfault'))]
  | presence =>
    obtain ⟨id, hid, -, rfl⟩ := h
    obtain ⟨id', hid', -, rfl⟩ := h'
    rw [Segment.names_unique hid hid']
  | members =>
    obtain ⟨payload, hpayload, -, rfl⟩ := h
    obtain ⟨payload', hpayload', -, rfl⟩ := h'
    rw [Except.ok.inj (hpayload.symm.trans hpayload')]
  | conflict =>
    obtain ⟨id, payload, hid, hpayload, hconflict⟩ := h
    obtain ⟨id', payload', hid', hpayload', hconflict'⟩ := h'
    cases Segment.names_unique hid hid'
    cases hpayload.symm.trans hpayload'
    exact hk.conflict_unique id payload e e' hconflict hconflict'

theorem Fails.status (h : k.Fails m mode request segment stage e) :
    e.status = stage.status ∧ e.Sound := by
  cases stage with
  | path =>
    obtain ⟨fault, -, rfl⟩ := h
    exact ⟨rfl, nofun⟩
  | body =>
    obtain ⟨fault, -, rfl⟩ := h
    exact ⟨rfl, nofun⟩
  | presence =>
    obtain ⟨id, -, -, rfl⟩ := h
    exact hk.missing_status id
  | members =>
    obtain ⟨payload, -, hoffences, rfl⟩ := h
    refine ⟨rfl, ?_⟩
    rintro _ ⟨⟩
    exact hk.substantial payload hoffences
  | conflict =>
    obtain ⟨id, payload, -, -, hconflict⟩ := h
    exact hk.conflict_status id payload e hconflict

theorem FirstFails.unique (h : k.FirstFails m mode request segment stage e)
    (h' : k.FirstFails m mode request segment stage' e') : stage = stage' ∧ e = e' := by
  have hstage : stage = stage' := by
    have hle := Nat.not_lt.1 fun hlt => h'.2 stage hlt e h.1
    have hge := Nat.not_lt.1 fun hlt => h.2 stage' hlt e' h'.1
    exact Stage.eq_of_rank (Nat.le_antisymm hge hle)
  subst hstage
  exact ⟨rfl, Fails.unique hk h.1 h'.1⟩

theorem staged_of_failed (hclear : k.Clear m mode request segment stage)
    (h : k.Fails m mode request segment stage e) :
    k.Staged m mode request segment now (.ofError e) m where
  decided := .inr ⟨stage, e, h, hclear⟩
  failed stage' e' h' := by
    obtain ⟨rfl, rfl⟩ := FirstFails.unique hk ⟨h, hclear⟩ h'
    obtain ⟨hstatus, hsound⟩ := Fails.status hk h
    exact ⟨rfl, hstatus, Response.reports_ofError hsound, rfl⟩
  passed hpasses := absurd h (hpasses stage e)
  only hstatus := by
    have hmem : (Response.ofError e).status ∈ [Status.ok, .created] := by simp [hstatus]
    exact absurd hmem (status_of_error e)

end Served

theorem staged_of_passed {id : Id entity} {new : α} (hpasses : k.Passes m mode request segment)
    (hid : Segment.Names segment id.number) (hpayload : Service.payload request = .ok payload)
    (hedited : k.Edited m now id payload m' new)
    (htimes : (k.shown m' new).isSome ↔ Timestamp.FourDigits [k.createdAt new, k.updatedAt new]) :
    k.Staged m mode request segment now (.ofChanged (k.shown m' new)) m' where
  decided := .inl hpasses
  failed stage e h := absurd h.1 (hpasses stage e)
  passed _ := by
    refine ⟨id, payload, new, hid, hpayload, hedited, rfl, ?_⟩
    rw [← htimes]
    cases k.shown m' new with
    | none => exact ⟨nofun, nofun⟩
    | some body => exact ⟨fun _ => rfl, fun _ => rfl⟩
  only _ := hpasses

theorem on_respond (body? : Option Bytes) :
    Service.ofOutcome ((Handler.respond .ok body?).on now m).1 = .ofChanged body? ∧
      ((Handler.respond .ok body?).on now m).2 = m := by
  cases body? with
  | none => exact ⟨Response.ofError_internal rfl, rfl⟩
  | some body => exact ⟨rfl, rfl⟩

theorem staged_of_handler {handler : Id entity → Json.Members → Handler Response}
    (hk : k.Served m mode now handler) {id : Id entity} (hid : Segment.Names segment id.number)
    (hpayload : Service.payload request = .ok payload) :
    let result := (handler id payload).on now m
    k.Staged m mode request segment now (Service.ofOutcome result.1) result.2 := by
  intro result
  have hpresence : k.Clear m mode request segment .presence :=
    (clear_path.next (fun _ => not_fails_path hid) rfl).next (fun _ => not_fails_body hpayload) rfl
  cases hfound : (k.table m).get? id with
  | none =>
    have hresult : result = (.error (k.missing id), m) := hk.missing id payload hfound
    rw [hresult]
    exact staged_of_failed hk hpresence ⟨id, hid, hfound, rfl⟩
  | some old =>
    have hmembers : k.Clear m mode request segment .members :=
      hpresence.next (fun _ => not_fails_presence hid hfound) rfl
    by_cases hnil : k.offences mode payload = []
    case neg =>
      have hresult : result = (.error (.validation ⟨k.offences mode payload⟩), m) :=
        hk.offended id payload old hfound hnil
      rw [hresult]
      exact staged_of_failed hk hmembers ⟨payload, hpayload, hnil, rfl⟩
    have hconflict : k.Clear m mode request segment .conflict :=
      hmembers.next (fun _ => not_fails_members hpayload hnil) rfl
    by_cases hfree : ∀ e, ¬ k.Conflict m id mode payload e
    · obtain ⟨new, m', hedited, hon, htimes⟩ := hk.edited id payload old hfound hnil hfree
      obtain ⟨hresponse, hleft⟩ := on_respond (k.shown m' new)
      unfold result
      rw [hon, hresponse, hleft]
      exact staged_of_passed (hconflict.passes fun _ => not_fails_conflict hpayload hid hfree) hid
        hpayload hedited htimes
    · obtain ⟨e, he⟩ := not_forall_not.1 hfree
      have hresult : result = (.error e, m) := hk.conflict id payload old e hfound hnil he
      rw [hresult]
      exact staged_of_failed hk hconflict ⟨id, payload, hid, hpayload, he⟩

theorem staged_of_served {handler : Id entity → Json.Members → Handler Response}
    (hk : k.Served m mode now handler) :
    let result := (Service.withId segment fun id =>
      Service.withPayload request (handler id)).on now m
    k.Staged m mode request segment now (Service.ofOutcome result.1) result.2 := by
  intro result
  obtain ⟨n, hn⟩ | ⟨fault, hfault⟩ := Segment.names_or_fault segment
  case inr =>
    have hresult : result = (.error (.path fault), m) := by
      unfold result
      rw [Service.withId_of_error (Segment.idOfSegment_of_fault hfault)]
      rfl
    rw [hresult]
    exact staged_of_failed hk clear_path ⟨fault, hfault, rfl⟩
  have hid : Service.idOfSegment segment = .ok (⟨n⟩ : Id entity) := Segment.idOfSegment_of_names hn
  unfold result
  rw [Service.withId_of_ok hid]
  cases hpayload : Service.payload request with
  | error fault =>
    have hbody : k.Clear m mode request segment .body :=
      clear_path.next (fun _ => not_fails_path hn) rfl
    rw [Service.withPayload_of_error hpayload]
    exact staged_of_failed hk hbody ⟨fault, BodyFault.of_iff.2 hpayload, rfl⟩
  | ok payload =>
    rw [Service.withPayload_of_ok hpayload]
    exact staged_of_handler hk hn hpayload

theorem parse_userChanges (h : userOffences mode payload = []) :
    ∃ changes, Form.userChanges.parse mode payload = .ok changes ∧
      changes.email = Field.email.value? mode payload := by
  obtain ⟨changes, hchanges, hparsed⟩ := (judged_userChanges mode payload).accepted h not_false
  exact ⟨changes, hparsed, congrArg UserChanges.email (Option.some.inj hchanges).symm⟩

theorem served_users (hm : m.Linked) (mode : Intent) (now : Timestamp) :
    users.Served m mode now (Handler.updateUser mode) where
  missing_status id := ⟨rfl, nofun⟩
  substantial payload h :=
    (judged_userChanges mode payload).substantial ((judged_userChanges mode payload).offended h)
  conflict_status := by
    rintro id payload _ ⟨email, -, -, rfl⟩
    refine ⟨rfl, ?_⟩
    rintro _ ⟨⟩
    exact FieldErrors.substantial_single _ _
  conflict_unique := by
    rintro id payload _ _ ⟨_, -, -, rfl⟩ ⟨_, -, -, rfl⟩
    rfl
  missing id payload h := Handler.on_updateUser_missing h mode payload
  offended id payload old hfound h :=
    Handler.on_updateUser_offended hfound ((judged_userChanges mode payload).offended h)
  conflict := by
    rintro id payload old _ hfound hnil ⟨email, hemail, hother, rfl⟩
    obtain ⟨changes, hparsed, hvalue⟩ := parse_userChanges hnil
    exact Handler.on_updateUser_taken hfound hparsed (hvalue.trans hemail)
      (Memory.emailInUse_iff.2 hother)
  edited id payload old hfound hnil hfree := by
    obtain ⟨changes, hparsed, hvalue⟩ := parse_userChanges hnil
    obtain ⟨-, rfl⟩ := hm.users.get?_eq_some_iff.1 hfound
    have htakes : m.TakesUser mode payload old changes := by
      refine ⟨hfound, hparsed, fun email hemail => ?_⟩
      rw [← Bool.not_eq_true, Memory.emailInUse_iff]
      exact fun hother => hfree _ ⟨email, hvalue ▸ hemail, hother, rfl⟩
    obtain ⟨hgiven, hkept⟩ := given_userChanges hparsed now old
    refine ⟨changes.revise now old, m.withUser (changes.revise now old), ?_,
      Handler.on_updateUser_takes htakes, ?_⟩
    · exact {
        revised := ⟨old, hfound, hkept, rfl⟩
        given := hgiven
        found := Table.get?_replace hfound _
        others := fun other hother => Table.get?_replace_of_ne hother _
        left := rfl }
    · exact User.write?_isSome_iff.trans Timestamp.fourDigits_iff.symm

theorem parse_postChanges (h : postOffences mode payload = []) :
    ∃ changes, Form.postChanges.parse mode payload = .ok changes ∧
      changes.author = Field.author.value? mode payload := by
  obtain ⟨changes, hchanges, hparsed⟩ := (judged_postChanges mode payload).accepted h not_false
  exact ⟨changes, hparsed, congrArg PostChanges.author (Option.some.inj hchanges).symm⟩

theorem shown_posts (hm : m.Linked) {post : Post} (hauthor : m.users.contains post.author) :
    posts.shown m post = (m.shown post).write? := by
  obtain ⟨author, hget⟩ := Option.isSome_iff_exists.1 hauthor
  have hrender := Handler.render_eq hm hauthor
  rw [hget] at hrender
  change (m.users.get? post.author).bind post.shownBy = _
  rw [hget, Option.bind_some, Post.shownBy, hrender]
  rfl

theorem served_posts (hm : m.Linked) (mode : Intent) (now : Timestamp) :
    posts.Served m mode now (Handler.updatePost mode) where
  missing_status id := ⟨rfl, nofun⟩
  substantial payload h :=
    (judged_postChanges mode payload).substantial ((judged_postChanges mode payload).offended h)
  conflict_status := by
    rintro id payload _ ⟨author, -, -, rfl⟩
    refine ⟨rfl, ?_⟩
    rintro _ ⟨⟩
    exact FieldErrors.substantial_single _ _
  conflict_unique := by
    rintro id payload _ _ ⟨author, hauthor, -, rfl⟩ ⟨author', hauthor', -, rfl⟩
    rw [Option.some.inj (hauthor.symm.trans hauthor')]
  missing id payload h := Handler.on_updatePost_missing h mode payload
  offended id payload old hfound h :=
    Handler.on_updatePost_offended hfound ((judged_postChanges mode payload).offended h)
  conflict := by
    rintro id payload old _ hfound hnil ⟨author, hauthor, hunknown, rfl⟩
    obtain ⟨changes, hparsed, hvalue⟩ := parse_postChanges hnil
    refine Handler.on_updatePost_unknown hfound hparsed (hvalue.trans hauthor) ?_
    rw [Option.eq_none_iff_forall_ne_some]
    intro user huser
    obtain ⟨hmem, hid⟩ := hm.users.get?_eq_some_iff.1 huser
    exact hunknown user hmem hid
  edited id payload old hfound hnil hfree := by
    obtain ⟨changes, hparsed, hvalue⟩ := parse_postChanges hnil
    obtain ⟨-, rfl⟩ := hm.posts.get?_eq_some_iff.1 hfound
    have htakes : m.TakesPost mode payload old changes := by
      refine ⟨hfound, hparsed, fun author hauthor => ?_⟩
      rw [hm.users.contains_iff]
      by_contra hunknown
      refine hfree _ ⟨author, hvalue ▸ hauthor, fun user huser hid => ?_, rfl⟩
      exact hunknown ⟨user, huser, hid⟩
    obtain ⟨hgiven, hkept⟩ := given_postChanges hparsed now old
    have hlinked : (m.withPost (changes.revise now old)).Linked := htakes.linked hm
    have hauthor : m.users.contains (changes.revise now old).author := htakes.author hm
    have hshown := shown_posts hlinked hauthor
    refine ⟨changes.revise now old, m.withPost (changes.revise now old), ?_, ?_, ?_⟩
    · exact {
        revised := ⟨old, hfound, hkept, rfl⟩
        given := hgiven
        found := Table.get?_replace hfound _
        others := fun other hother => Table.get?_replace_of_ne hother _
        left := rfl }
    · rw [hshown]
      exact Handler.on_updatePost_takes hm htakes
    · rw [hshown]
      exact PostView.write?_isSome_iff.trans Timestamp.fourDigits_iff.symm

end Editing

namespace Request.Edits

variable {route : String → Route}

theorem ofPath? (h : request.Edits route mode segment) :
    Route.ofPath? request.uri.path = some (route segment) :=
  Route.ofPath?_eq_some_iff.2 ⟨h.listed, h.path⟩

theorem notHead (h : request.Edits route mode segment) : request.method ≠ "HEAD" := by
  obtain ⟨hmethod, -⟩ | ⟨hmethod, -⟩ := h.method <;> exact hmethod ▸ by decide

theorem answer_eq (h : request.Edits route mode segment) (m : Memory) (now : Timestamp) :
    m.answer now request = (Service.ofOutcome ((Service.handle request).on now m).1,
      ((Service.handle request).on now m).2) := by
  rw [Memory.answer_eq, Memory.trimmed_eq h.notHead]

theorem handle_eq {k : Editing entity α} (x : k.Handlers) (h : request.Edits k.route mode segment) :
    Service.handle request = Service.withId segment fun id =>
      Service.withPayload request (x.update mode id) := by
  rw [Service.handle, h.ofPath?]
  exact x.serve_update h.method segment

theorem staged {k : Editing entity α} (x : k.Handlers) (h : request.Edits k.route mode segment)
    (hk : k.Served m mode now (x.update mode)) :
    k.Staged m mode request segment now (m.answer now request).1 (m.answer now request).2 := by
  rw [h.answer_eq, h.handle_eq x]
  exact Editing.staged_of_served hk

end Request.Edits

namespace Memory

/-- Of all that is wrong with a change to a user or post, the first stage in order is reported, in
every state that the store can be in. Only if nothing is wrong is the change made, and then nothing
else is changed. -/
theorem edits_staged (calls : List (Timestamp × Call)) (now : Timestamp) (request : Request)
    (mode : Intent) (segment : String) :
    let m := after {} calls
    let answer := m.answer now request
    (request.Edits .user mode segment →
      Editing.users.Staged m mode request segment now answer.1 answer.2) ∧
    (request.Edits .post mode segment →
      Editing.posts.Staged m mode request segment now answer.1 answer.2) := by
  intro m answer
  have hm : m.Linked := linked_after linked_empty calls
  exact ⟨fun h => h.staged .users (Editing.served_users hm mode now),
    fun h => h.staged .posts (Editing.served_posts hm mode now)⟩

theorem edits_ofTexts (members : List (String × String)) :
    (Request.ofTexts members).Edits .user .patch "1" where
  method := .inr ⟨rfl, rfl⟩
  listed := ⟨by decide, by decide⟩
  path := show "/users/1" = _ by decide

theorem edits_staged_of_ada :
    let ada : NewUser := ⟨⟨"ada@example.com", by decide⟩, "Ada", "King", true⟩
    let eve : NewUser := ⟨⟨"eve@example.com", by decide⟩, "Eve", "Double", true⟩
    let calls : List (Timestamp × Call) := [(⟨0, 0⟩, .createUser ada), (⟨0, 0⟩, .createUser eve),
      (⟨0, 0⟩, .createPost ⟨"Engines", "On analytical engines.", ⟨1⟩, true⟩)]
    let m := after {} calls
    let twofold := Request.ofTexts [("email", "eve@example.com"), ("first_name", " ")]
    let named := Request.ofTexts [("first_name", "Grace")]
    let titled := { Request.ofTexts [("title", "Notes")] with uri := { path := "/posts/1" } }
    twofold.Edits .user .patch "1" ∧ named.Edits .user .patch "1" ∧
    titled.Edits .post .patch "1" ∧
    (∃ e, Editing.users.Fails m .patch twofold "1" .conflict e) ∧
    m.answer ⟨1, 0⟩ twofold =
      (.ofError (.validation ⟨[("first_name", ["This field may not be blank."])]⟩), m) ∧
    (m.answer ⟨1, 0⟩ named).1.status = .ok ∧ Editing.users.Passes m .patch named "1" ∧
    (m.answer ⟨1, 0⟩ titled).1.status = .ok ∧ Editing.posts.Passes m .patch titled "1" := by
  intro ada eve calls m twofold named titled
  have htwofold : twofold.Edits .user .patch "1" := edits_ofTexts _
  have hnamed : named.Edits .user .patch "1" := edits_ofTexts _
  have htitled : titled.Edits .post .patch "1" :=
    ⟨.inr ⟨rfl, rfl⟩, ⟨by decide, by decide⟩, show "/posts/1" = _ by decide⟩
  have hid : Segment.Names "1" (⟨1⟩ : UserId).number := names_id (⟨1⟩ : UserId)
  have hchanges : twofold.Changes .user (⟨1⟩ : UserId) "PATCH" _ :=
    Request.changes_ofTexts (by decide +kernel)
  have hfound : ∃ user, m.users.get? ⟨1⟩ = some user := ⟨_, rfl⟩
  have hoffences : Editing.users.offences .patch
      (.ofTexts [("email", "eve@example.com"), ("first_name", " ")]) =
        [("first_name", ["This field may not be blank."])] := by
    decide +kernel
  have hfirst : Editing.users.FirstFails m .patch twofold "1" .members
      (.validation ⟨[("first_name", ["This field may not be blank."])]⟩) := by
    obtain ⟨user, hfound⟩ := hfound
    refine ⟨⟨_, hchanges.payload, ?_, ?_⟩, ?_⟩
    · simp [hoffences]
    · rw [hoffences]
    · exact ((Editing.clear_path.next (fun _ => Editing.not_fails_path hid) rfl).next
        (fun _ => Editing.not_fails_body hchanges.payload) rfl).next
        (fun _ => Editing.not_fails_presence hid hfound) rfl
  have huser : (m.answer ⟨1, 0⟩ named).1.status = .ok := by decide +kernel
  have hpost : (m.answer ⟨1, 0⟩ titled).1.status = .ok := by decide +kernel
  refine ⟨htwofold, hnamed, htitled, ?_, ?_, huser, ?_, hpost, ?_⟩
  · refine ⟨_, ⟨1⟩, _, hid, hchanges.payload, ⟨"eve@example.com", by decide⟩, ?_, ?_, rfl⟩
    · decide +kernel
    · exact ⟨⟨⟨2⟩, _, "Eve", "Double", true, ⟨0, 0⟩, ⟨0, 0⟩⟩, by decide +kernel, by decide, rfl⟩
  · obtain ⟨hresponse, -, -, hleft⟩ :=
      ((edits_staged calls ⟨1, 0⟩ twofold .patch "1").1 htwofold).failed _ _ hfirst
    exact Prod.ext hresponse hleft
  · exact ((edits_staged calls ⟨1, 0⟩ named .patch "1").1 hnamed).only huser
  · exact ((edits_staged calls ⟨1, 0⟩ titled .patch "1").2 htitled).only hpost

end Memory

end Bulletin
