import Bulletin.Proofs.Service.Directory
import Bulletin.Proofs.Service.SentBack
import Bulletin.Proofs.Service.Unseen
import Bulletin.Proofs.View.Union
import Bulletin.Service.Combined

/-!
Changes one after another leave what their union leaves at once, up to the time of the last change.
The first one keeps the emails of the other users and all authors as they are, so what the second
one needs was there before.
-/

namespace Bulletin

variable {α : Type} {entity : Entity}
variable {mode : Intent} {payload earlier later both : Json.Members}
variable {now now₁ now₂ : Timestamp} {m : Memory} {request : Request}

theorem Table.replace_replace {entity : Entity} {α : Type} (t : Table entity α) (id : Id entity)
    (a b : α) : (t.replace id a).replace id b = t.replace id b := by
  simp only [replace, List.map_map]
  congr 1
  refine List.map_congr_left fun row _ => ?_
  obtain ⟨key, old⟩ := row
  by_cases hkey : key = id <;> simp [hkey]

namespace Memory

theorem withUser_withUser {a b : User} (hid : a.id = b.id) :
    (m.withUser a).withUser b = m.withUser b := by
  rw [withUser, withUser, hid, Table.replace_replace]
  rfl

theorem withPost_withPost {a b : Post} (hid : a.id = b.id) :
    (m.withPost a).withPost b = m.withPost b := by
  rw [withPost, withPost, hid, Table.replace_replace]
  rfl

section User

variable {user : User} {changes first second : UserChanges} (hm : m.Linked)

include hm in
theorem emailInUse_withUser (hfound : m.users.get? user.id = some user) (email : Email) :
    (m.withUser (changes.revise now user)).emailInUse email (some user.id) =
      m.emailInUse email (some user.id) := by
  have hvalues := hm.users.values_replace (f := fun _ => changes.revise now user) hfound
  change (m.users.replace user.id (changes.revise now user)).values.any _ = _
  rw [hvalues, List.any_map]
  refine congrArg m.users.values.any (funext fun other => ?_)
  by_cases hid : other.id = user.id
  · have hrevised : (changes.revise now user).id = user.id := rfl
    simp [hid, hrevised]
  · simp [hid]

include hm in
theorem TakesUser.again (h : m.TakesUser mode payload user changes) :
    (m.withUser (changes.revise now user)).TakesUser mode payload (changes.revise now user)
      changes where
  found := Table.get?_replace h.found _
  parsed := h.parsed
  free email hemail := (emailInUse_withUser hm h.found email).trans (h.free email hemail)

include hm in
theorem TakesUser.orElse (hunion : earlier.Union later both)
    (hfirst : m.TakesUser mode earlier user first)
    (hsecond : (m.withUser (first.revise now user)).TakesUser mode later (first.revise now user)
      second) : m.TakesUser mode both user (second.orElse first) where
  found := hfirst.found
  parsed := parse_user_union hunion hfirst.parsed hsecond.parsed
  free email hemail := by
    rcases Option.or_eq_some_iff.1 hemail with hlater | ⟨-, hearlier⟩
    · exact (emailInUse_withUser hm hfirst.found email).symm.trans (hsecond.free email hlater)
    · exact hfirst.free email hearlier

end User

section Post

variable {post : Post} {changes first second : PostChanges}

theorem TakesPost.again (h : m.TakesPost mode payload post changes) :
    (m.withPost (changes.revise now post)).TakesPost mode payload (changes.revise now post)
      changes where
  found := Table.get?_replace h.found _
  parsed := h.parsed
  known := h.known

theorem TakesPost.orElse (hunion : earlier.Union later both)
    (hfirst : m.TakesPost mode earlier post first)
    (hsecond : (m.withPost (first.revise now post)).TakesPost mode later (first.revise now post)
      second) : m.TakesPost mode both post (second.orElse first) where
  found := hfirst.found
  parsed := parse_post_union hunion hfirst.parsed hsecond.parsed
  known author hauthor := by
    rcases Option.or_eq_some_iff.1 hauthor with hlater | ⟨-, hearlier⟩
    · exact hsecond.known author hlater
    · exact hfirst.known author hearlier

end Post

end Memory

theorem Service.ok_of_status {outcome : Except ServiceError Response}
    (h : (ofOutcome outcome).status = .ok) : ∃ r, outcome = .ok r := by
  cases outcome with
  | ok r => exact ⟨r, rfl⟩
  | error e => exact absurd (h ▸ List.mem_cons_self) (status_of_error e)

namespace Editing

/-- How changes are taken, what they leave, and what they do one after another. -/
structure Revising (k : Editing entity α) (δ : Type) extends Handlers k where
  revise : δ → Timestamp → α → α
  orElse : δ → δ → δ
  dated : α → Timestamp → α
  Takes : Memory → Intent → Json.Members → α → δ → Prop
  createdAt_revise : ∀ c now a, k.createdAt (revise c now a) = k.createdAt a
  revise_again : ∀ c now₁ now₂ a, revise c now₂ (revise c now₁ a) =
    dated (revise c now₁ a) ((k.updatedAt (revise c now₁ a)).after now₂)
  put_revise_orElse : ∀ m first second now now₁ now₂ a,
    k.put m (revise (orElse second first) now a) =
      k.put (k.put (k.put m (revise first now₁ a)) (revise second now₂ (revise first now₁ a)))
        (dated (revise second now₂ (revise first now₁ a)) ((k.updatedAt a).after now))
  found : ∀ {m mode payload a c}, Takes m mode payload a c →
    (k.table m).get? (k.ident a) = some a
  ident_revise : ∀ c now a, k.ident (revise c now a) = k.ident a
  get?_put : ∀ {m mode payload a c}, Takes m mode payload a c → ∀ now,
    (k.table (k.put m (revise c now a))).get? (k.ident a) = some (revise c now a)
  linked : ∀ {m mode payload a c}, m.Linked → Takes m mode payload a c → ∀ now,
    (k.put m (revise c now a)).Linked
  again : ∀ {m mode payload a c}, m.Linked → Takes m mode payload a c → ∀ now,
    Takes (k.put m (revise c now a)) mode payload (revise c now a) c
  union : ∀ {m mode earlier later both a first second now}, m.Linked →
    Json.Members.Union earlier later both → Takes m mode earlier a first →
    Takes (k.put m (revise first now a)) mode later (revise first now a) second →
    Takes m mode both a (orElse second first)
  taken : ∀ {m m' mode id payload now r}, m.Linked →
    (update mode id payload).on now m = (.ok r, m') → ∃ a c, k.ident a = id ∧
      Takes m mode payload a c ∧ (k.createdAt a).write?.isSome ∧
      ((k.updatedAt a).after now).write?.isSome ∧ m' = k.put m (revise c now a)
  takes : ∀ {m mode payload a c now}, m.Linked → Takes m mode payload a c →
    (k.createdAt a).write?.isSome → ((k.updatedAt a).after now).write?.isSome →
    ∃ body, (update mode (k.ident a) payload).on now m =
      (.ok (.json .ok body), k.put m (revise c now a))

namespace Revising

def users : Revising Editing.users UserChanges where
  toHandlers := .users
  revise := UserChanges.revise
  orElse := UserChanges.orElse
  dated := User.dated
  Takes := Memory.TakesUser
  createdAt_revise _ _ _ := rfl
  revise_again c now₁ now₂ user := UserChanges.revise_again now₂ now₁ c user
  put_revise_orElse m first second now now₁ now₂ user := by
    rw [UserChanges.revise_orElse now now₁ now₂]
    -- Whatever was put in the place of the user before is gone.
    refine (Memory.withUser_withUser ?_).symm.trans (Memory.withUser_withUser ?_).symm <;> rfl
  found h := h.found
  ident_revise _ _ _ := rfl
  get?_put h _ := Table.get?_replace h.found _
  linked hm h _ := h.linked hm
  again hm h _ := h.again hm
  union hm hunion hfirst hsecond := hfirst.orElse hm hunion hsecond
  taken hm hon := by
    obtain ⟨user, changes, body, hid, htakes, hbody, -, hleft⟩ := Handler.ok_of_updateUser hm hon
    have htimes := User.write?_isSome_iff.1 (Option.isSome_iff_exists.2 ⟨body, hbody⟩)
    exact ⟨user, changes, hid, htakes, htimes.1, htimes.2, hleft⟩
  takes {_ _ _ user changes now} _ htakes hcreated hupdated := by
    have hwrite : (changes.revise now user).write?.isSome :=
      User.write?_isSome_iff.2 ⟨hcreated, hupdated⟩
    obtain ⟨body, hbody⟩ := Option.isSome_iff_exists.1 hwrite
    exact ⟨body, Handler.on_updateUser htakes hbody⟩

def posts : Revising Editing.posts PostChanges where
  toHandlers := .posts
  revise := PostChanges.revise
  orElse := PostChanges.orElse
  dated := Post.dated
  Takes := Memory.TakesPost
  createdAt_revise _ _ _ := rfl
  revise_again c now₁ now₂ post := PostChanges.revise_again now₂ now₁ c post
  put_revise_orElse m first second now now₁ now₂ post := by
    rw [PostChanges.revise_orElse now now₁ now₂]
    refine (Memory.withPost_withPost ?_).symm.trans (Memory.withPost_withPost ?_).symm <;> rfl
  found h := h.found
  ident_revise _ _ _ := rfl
  get?_put h _ := Table.get?_replace h.found _
  linked hm h _ := h.linked hm
  again _ h _ := h.again
  union _ hunion hfirst hsecond := hfirst.orElse hunion hsecond
  taken hm hon := by
    obtain ⟨post, changes, body, hid, htakes, hbody, -, hleft⟩ := Handler.ok_of_updatePost hm hon
    have htimes := PostView.write?_isSome_iff.1 (Option.isSome_iff_exists.2 ⟨body, hbody⟩)
    exact ⟨post, changes, hid, htakes, htimes.1, htimes.2, hleft⟩
  takes {m _ _ post changes now} hm htakes hcreated hupdated := by
    let left := changes.revise now post
    have hwrite : ((m.withPost left).shown left).write?.isSome :=
      PostView.write?_isSome_iff.2 ⟨hcreated, hupdated⟩
    obtain ⟨body, hbody⟩ := Option.isSome_iff_exists.1 hwrite
    exact ⟨body, Handler.on_updatePost hm htakes hbody⟩

variable {k : Editing entity α} {δ : Type} (x : Revising k δ) {id : Id entity} {method : String}
variable {request₁ request₂ : Request}
variable (hs : Service.Serves method mode) (hm : m.Linked)
include hs hm

theorem taken_of_changes (h : request.Changes k.route id method payload)
    (hstatus : (m.answer now request).1.status = .ok) : ∃ a c, k.ident a = id ∧
      x.Takes m mode payload a c ∧ (k.createdAt a).write?.isSome ∧
      ((k.updatedAt a).after now).write?.isSome ∧
        (m.answer now request).2 = k.put m (x.revise c now a) := by
  rw [x.answer_update (h.method ▸ hs) h.leadsTo h.payload] at hstatus ⊢
  obtain ⟨r, hr⟩ := Service.ok_of_status hstatus
  exact x.taken hm (Prod.ext hr rfl)

theorem answer_of_takes {a : α} {c : δ} (h : request.Changes k.route (k.ident a) method payload)
    (htakes : x.Takes m mode payload a c) (hcreated : (k.createdAt a).write?.isSome)
    (hupdated : ((k.updatedAt a).after now).write?.isSome) :
    (m.answer now request).1.status = .ok ∧
      (m.answer now request).2 = k.put m (x.revise c now a) := by
  obtain ⟨body, hon⟩ := x.takes hm htakes hcreated hupdated
  rw [x.answer_update (h.method ▸ hs) h.leadsTo h.payload, hon]
  exact ⟨rfl, rfl⟩

variable (hstatus₁ : (m.answer now₁ request₁).1.status = .ok)
variable (h₁ : request₁.Changes k.route id method earlier)
include hstatus₁ h₁

theorem repeated : ∃ new, (k.table (m.answer now₁ request₁).2).get? id = some new ∧
    (m.answer now₁ request₁).2.Leaves request₁ (k.updatedAt new) fun time =>
      k.put (m.answer now₁ request₁).2 (x.dated new time) := by
  obtain ⟨a, c, rfl, htakes, hcreated, -, hleft⟩ := x.taken_of_changes hs hm h₁ hstatus₁
  rw [hleft]
  refine ⟨x.revise c now₁ a, x.get?_put htakes now₁, fun now hnow => ?_⟩
  rw [← x.ident_revise c now₁ a] at h₁
  rw [← x.createdAt_revise c now₁ a] at hcreated
  have hagain := x.answer_of_takes hs (x.linked hm htakes now₁) h₁ (x.again hm htakes now₁)
    hcreated hnow
  rwa [x.revise_again] at hagain

theorem combined (hunion : earlier.Union later both)
    (hstatus₂ : ((m.answer now₁ request₁).2.answer now₂ request₂).1.status = .ok)
    (h₂ : request₂.Changes k.route id method later) (h : request.Changes k.route id method both) :
    ∃ old new, (k.table m).get? id = some old ∧
      (k.table ((m.answer now₁ request₁).2.answer now₂ request₂).2).get? id = some new ∧
      ((k.updatedAt old).after now₁).write?.isSome ∧
      m.Leaves request (k.updatedAt old) fun time =>
        k.put ((m.answer now₁ request₁).2.answer now₂ request₂).2 (x.dated new time) := by
  obtain ⟨a, first, rfl, hfirst, hcreated, hupdated, hleft₁⟩ :=
    x.taken_of_changes hs hm h₁ hstatus₁
  rw [hleft₁] at hstatus₂ ⊢
  obtain ⟨b, second, hid, hsecond, -, -, hleft₂⟩ :=
    x.taken_of_changes hs (x.linked hm hfirst now₁) h₂ hstatus₂
  obtain rfl : b = x.revise first now₁ a := by
    have hfound := x.found hsecond
    rw [hid, x.get?_put hfirst] at hfound
    exact (Option.some.inj hfound).symm
  have hnew := x.get?_put hsecond now₂
  rw [x.ident_revise] at hnew
  rw [hleft₂]
  refine ⟨a, _, x.found hfirst, hnew, hupdated, fun now hnow => ?_⟩
  obtain ⟨hstatus, hleft⟩ :=
    x.answer_of_takes hs hm h (x.union hm hunion hfirst hsecond) hcreated hnow
  exact ⟨hstatus, hleft.trans (x.put_revise_orElse m first second now now₁ now₂ a)⟩

end Revising

end Editing

def Request.ofTexts (members : List (String × String)) : Request where
  method := "PATCH"
  uri := { path := "/users/1" }
  contentType := some "application/json"
  body := Json.Write.object (members.map fun (name, s) => (name, Json.Write.text s))

def Json.Members.ofTexts (members : List (String × String)) : Members :=
  members.map fun (name, s) => (name, .text s)

theorem Json.Members.spelled_ofTexts (depth : Nat) (members : List (String × String)) :
    Spelled depth (members.map fun (name, s) => (name, Write.text s)) (ofTexts members) := by
  induction members with
  | nil => exact .nil
  | cons member members ih => exact .cons (spelled_text depth member.2) ih

theorem Request.changes_ofTexts {members : List (String × String)}
    (hlength : (ofTexts members).body.length ≤ Service.maxBodyLength) :
    (ofTexts members).Changes .user (⟨1⟩ : UserId) "PATCH" (.ofTexts members) where
  method := rfl
  leadsTo := leadsTo_id (segment_id _) (show "/users/1" = _ by decide)
  payload := Service.payload_of_readObject
    (show (some "application/json").any (MediaType.announcesJson <| utf8 ·) by decide +kernel)
    hlength (Json.readObject_written (Json.Members.spelled_ofTexts _ members))

namespace Memory

/-- Two changes of a user or post that succeed one after the other are made at once by the union of
their payloads, and a change that succeeds does so again and changes a time only. -/
theorem combined_changes (calls : List (Timestamp × Call)) (now₁ now₂ : Timestamp)
    {method : String} {earlier later both : Json.Members} {request₁ request₂ request : Request}
    (hmethod : method = "PUT" ∨ method = "PATCH") (hunion : earlier.Union later both) :
    let m := after {} calls
    let m₁ := (m.answer now₁ request₁).2
    let m₂ := (m₁.answer now₂ request₂).2
    (m.answer now₁ request₁).1.status = .ok →
    (∀ id : UserId, request₁.Changes .user id method earlier →
      (∃ new, m₁.users.get? id = some new ∧
        m₁.Leaves request₁ new.updatedAt fun time => m₁.withUser (new.dated time)) ∧
      ((m₁.answer now₂ request₂).1.status = .ok → request₂.Changes .user id method later →
        request.Changes .user id method both →
        ∃ old new, m.users.get? id = some old ∧ m₂.users.get? id = some new ∧
          (old.updatedAt.after now₁).write?.isSome ∧
          m.Leaves request old.updatedAt fun time => m₂.withUser (new.dated time))) ∧
    ∀ id : PostId, request₁.Changes .post id method earlier →
      (∃ new, m₁.posts.get? id = some new ∧
        m₁.Leaves request₁ new.updatedAt fun time => m₁.withPost (new.dated time)) ∧
      ((m₁.answer now₂ request₂).1.status = .ok → request₂.Changes .post id method later →
        request.Changes .post id method both →
        ∃ old new, m.posts.get? id = some old ∧ m₂.posts.get? id = some new ∧
          (old.updatedAt.after now₁).write?.isSome ∧
          m.Leaves request old.updatedAt fun time => m₂.withPost (new.dated time)) := by
  intro m m₁ m₂ hstatus₁
  have hm : m.Linked := linked_after linked_empty calls
  obtain ⟨mode, hs⟩ := Service.exists_serves hmethod
  refine ⟨fun id h₁ => ⟨Editing.Revising.users.repeated hs hm hstatus₁ h₁, ?_⟩,
    fun id h₁ => ⟨Editing.Revising.posts.repeated hs hm hstatus₁ h₁, ?_⟩⟩
  · exact Editing.Revising.users.combined hs hm hstatus₁ h₁ hunion
  · exact Editing.Revising.posts.combined hs hm hstatus₁ h₁ hunion

def adaAlone : List (Timestamp × Call) := sampleCalls.take 1

theorem combined_changes_of_ada :
    let request₁ := Request.ofTexts [("first_name", "Grace")]
    let request₂ := Request.ofTexts [("last_name", "Hopper")]
    let request := Request.ofTexts [("first_name", "Grace"), ("last_name", "Hopper")]
    let m := after {} adaAlone
    let m₁ := (m.answer ⟨1, 0⟩ request₁).2
    let m₂ := (m₁.answer ⟨0, 0⟩ request₂).2
    (m.answer ⟨1, 0⟩ request₁).1.status = .ok ∧ (m₁.answer ⟨0, 0⟩ request₂).1.status = .ok ∧
      ∃ old new, m.users.get? ⟨1⟩ = some old ∧ m₂.users.get? ⟨1⟩ = some new ∧
        (old.updatedAt.after ⟨1, 0⟩).write?.isSome ∧
        m.Leaves request old.updatedAt fun time => m₂.withUser (new.dated time) := by
  intro request₁ request₂ request m m₁ m₂
  have hstatus₁ : (m.answer ⟨1, 0⟩ request₁).1.status = .ok := by decide +kernel
  have hstatus₂ : (m₁.answer ⟨0, 0⟩ request₂).1.status = .ok := by decide +kernel
  have h₁ : request₁.Changes .user (⟨1⟩ : UserId) "PATCH" _ :=
    Request.changes_ofTexts (by decide +kernel)
  have h₂ : request₂.Changes .user (⟨1⟩ : UserId) "PATCH" _ :=
    Request.changes_ofTexts (by decide +kernel)
  have h : request.Changes .user (⟨1⟩ : UserId) "PATCH" _ :=
    Request.changes_ofTexts (by decide +kernel)
  have hunion := Json.Members.union_append (.ofTexts [("first_name", "Grace")])
    (.ofTexts [("last_name", "Hopper")])
  exact ⟨hstatus₁, hstatus₂, ((combined_changes adaAlone ⟨1, 0⟩ ⟨0, 0⟩ (.inr rfl) hunion
    hstatus₁).1 ⟨1⟩ h₁).2 hstatus₂ h₂ h⟩

theorem length_text (n : Nat) :
    (Json.Write.text (.ofList (List.replicate n 'x'))).length = n + 2 := by
  have hutf8 : utf8 (.ofList (List.replicate n 'x')) = List.replicate n 120 := by
    rw [utf8_ofList, List.map_replicate]
    · rfl
    · intro c hc
      rw [List.eq_of_mem_replicate hc]
      decide
  have hescape : Json.Write.escape 120 = [120] := by decide
  simp [Json.Write.text, hutf8, List.flatMap_replicate, hescape]

theorem length_ofTexts_one {name : String} (s : String)
    (hname : (Json.Write.text name).length = 3) :
    (Request.ofTexts [(name, s)]).body.length = (Json.Write.text s).length + 6 := by
  simp [Request.ofTexts, Json.Write.object, Json.Write.member, hname]
  omega

theorem length_ofTexts_two {a b : String} (s : String) (ha : (Json.Write.text a).length = 3)
    (hb : (Json.Write.text b).length = 3) :
    (Request.ofTexts [(a, s), (b, s)]).body.length = 2 * (Json.Write.text s).length + 11 := by
  simp [Request.ofTexts, Json.Write.object, Json.Write.member, ha, hb]
  omega

section Unseen

variable {s name : String} {user : User} {request request₁ request₂ : Request}

theorem under_ofTexts (hname : name ∉ View.user.writable) :
    Json.Members.under (.ofTexts [(name, s)]) View.user.writable =
      Json.Members.under [] View.user.writable := by
  refine List.map_congr_left fun other hother => ?_
  have hne : other ≠ name := fun h => hname (h ▸ hother)
  simp [Json.Members.get?, Json.Members.ofTexts, List.lookup_cons, beq_false_of_ne hne]

variable (hname : name ∉ View.user.writable) (hm : m.Linked)
variable (hfound : m.users.get? user.id = some user) (hcreated : user.createdAt.write?.isSome)
include hname hm hfound hcreated

theorem answer_of_unseen (h : request.Changes .user user.id "PATCH" (.ofTexts [(name, s)]))
    (hupdated : (user.updatedAt.after now).write?.isSome) :
    (m.answer now request).1.status = .ok ∧
      (m.answer now request).2 = m.withUser (({} : UserChanges).revise now user) := by
  have hparsed : Form.userChanges.parse .patch (.ofTexts [(name, s)]) = .ok {} := by
    rw [PayloadReader.userChanges_of_under (under_ofTexts hname)]
    rfl
  have htakes : m.TakesUser .patch (.ofTexts [(name, s)]) user {} := ⟨hfound, hparsed, nofun⟩
  exact Editing.Revising.users.answer_of_takes (.inr ⟨rfl, rfl⟩) hm h htakes hcreated hupdated

theorem answers_of_unseen {name' : String} (hname' : name' ∉ View.user.writable)
    (h₁ : request₁.Changes .user user.id "PATCH" (.ofTexts [(name, s)]))
    (h₂ : request₂.Changes .user user.id "PATCH" (.ofTexts [(name', s)]))
    (hupdated₁ : (user.updatedAt.after now₁).write?.isSome)
    (hupdated₂ : ((user.updatedAt.after now₁).after now₂).write?.isSome) :
    (m.answer now₁ request₁).1.status = .ok ∧
      ((m.answer now₁ request₁).2.answer now₂ request₂).1.status = .ok := by
  obtain ⟨hstatus, hleft⟩ := answer_of_unseen hname hm hfound hcreated h₁ hupdated₁
  let left := ({} : UserChanges).revise now₁ user
  have hfound₁ : (m.withUser left).users.get? left.id = some left :=
    Table.get?_replace hfound left
  have hcreated₁ : left.createdAt.write?.isSome := hcreated
  have h₂' : request₂.Changes .user left.id "PATCH" (.ofTexts [(name', s)]) := h₂
  rw [hleft]
  have htakes : m.TakesUser .patch [] user {} := ⟨hfound, rfl, nofun⟩
  have hlinked : (m.withUser left).Linked := htakes.linked hm
  exact ⟨hstatus, (answer_of_unseen hname' hlinked hfound₁ hcreated₁ h₂' hupdated₂).1⟩

end Unseen

section TooLong

variable {members : List (String × String)}

theorem payload_tooLong (hlength : Service.maxBodyLength < (Request.ofTexts members).body.length) :
    Service.payload (Request.ofTexts members) = .error .tooLong := by
  have htype : (Request.ofTexts members).contentType.any (MediaType.announcesJson <| utf8 ·) :=
    show (some "application/json").any (MediaType.announcesJson <| utf8 ·) by decide +kernel
  rw [Service.payload, htype, if_neg (by decide), if_pos hlength]

theorem answer_tooLong (hlength : Service.maxBodyLength < (Request.ofTexts members).body.length) :
    m.answer now (Request.ofTexts members) = (.ofError (.body .tooLong), m) := by
  have hnames : ∀ segment ∈ (Route.user "1").segment?, ∃ n, Segment.Names segment n := by
    rintro segment ⟨⟩
    exact ⟨1, names_id (⟨1⟩ : UserId)⟩
  have hmethod : (Request.ofTexts members).method = "PATCH" := rfl
  have hlisted : (Route.user "1").Listed := ⟨by decide, by decide⟩
  have hpath : (Request.ofTexts members).uri.path = (Route.user "1").path :=
    show "/users/1" = _ by decide
  have hend : (Request.ofTexts members).EndsAt (.response (.ofError (.body .tooLong))) := by
    refine .known hlisted hpath (.refused ?_ ?_ hnames (payload_tooLong hlength)) <;>
      rw [hmethod] <;> decide
  rw [answer, hend.respond_eq]
  rfl

end TooLong

/-- Two payloads of 1.2 million characters each are taken one after the other, but their union is
too long for a request. -/
theorem union_too_long :
    let s := String.ofList (List.replicate 1200000 'x')
    let request₁ := Request.ofTexts [("a", s)]
    let request₂ := Request.ofTexts [("b", s)]
    let request := Request.ofTexts [("a", s), ("b", s)]
    let m := after {} adaAlone
    let m₁ := (m.answer ⟨1, 0⟩ request₁).2
    request₁.Changes .user (⟨1⟩ : UserId) "PATCH" (.ofTexts [("a", s)]) ∧
    request₂.Changes .user (⟨1⟩ : UserId) "PATCH" (.ofTexts [("b", s)]) ∧
    (m.answer ⟨1, 0⟩ request₁).1.status = .ok ∧ (m₁.answer ⟨2, 0⟩ request₂).1.status = .ok ∧
    Json.readObject request.body = .ok (.ofTexts [("a", s), ("b", s)]) ∧
    Json.Members.Union (.ofTexts [("a", s)]) (.ofTexts [("b", s)]) (.ofTexts [("a", s), ("b", s)]) ∧
    (m.answer ⟨1, 0⟩ request).1.status = .badRequest := by
  intro s request₁ request₂ request m m₁
  have hs : (Json.Write.text s).length = 1200002 := length_text 1200000
  have ha : (Json.Write.text "a").length = 3 := by decide
  have hb : (Json.Write.text "b").length = 3 := by decide
  have hshort₁ : request₁.body.length ≤ Service.maxBodyLength := by
    rw [length_ofTexts_one s ha, hs]
    decide
  have hshort₂ : request₂.body.length ≤ Service.maxBodyLength := by
    rw [length_ofTexts_one s hb, hs]
    decide
  have hlong : Service.maxBodyLength < request.body.length := by
    rw [length_ofTexts_two s ha hb, hs]
    decide
  have h₁ : request₁.Changes .user (⟨1⟩ : UserId) "PATCH" _ := Request.changes_ofTexts hshort₁
  have h₂ : request₂.Changes .user (⟨1⟩ : UserId) "PATCH" _ := Request.changes_ofTexts hshort₂
  obtain ⟨user, hfound, hid, hcreated, hupdated⟩ : ∃ user, m.users.get? ⟨1⟩ = some user ∧
      user.id = ⟨1⟩ ∧ user.createdAt = ⟨0, 0⟩ ∧ user.updatedAt = ⟨0, 0⟩ := ⟨_, rfl, rfl, rfl, rfl⟩
  rw [← hid] at h₁ h₂ hfound
  have hcreated' : user.createdAt.write?.isSome := by rw [hcreated]; decide +kernel
  have hupdated₁ : (user.updatedAt.after ⟨1, 0⟩).write?.isSome := by rw [hupdated]; decide +kernel
  have hupdated₂ : ((user.updatedAt.after ⟨1, 0⟩).after ⟨2, 0⟩).write?.isSome := by
    rw [hupdated]
    decide +kernel
  obtain ⟨hstatus₁, hstatus₂⟩ :=
    answers_of_unseen (by decide) (linked_after linked_empty _) hfound hcreated' (by decide) h₁ h₂
      hupdated₁ hupdated₂
  refine ⟨hid ▸ h₁, hid ▸ h₂, hstatus₁, hstatus₂,
    Json.readObject_written (Json.Members.spelled_ofTexts _ _), Json.Members.union_append _ _, ?_⟩
  rw [answer_tooLong hlong]
  rfl

/-- In the last microsecond of the year 9999 a user is renamed. No time later than that can be
shown, so that the same again does not succeed while the clock stands still. -/
theorem not_repeated_at_the_end_of_years :
    let last : Timestamp := ⟨2932897 * Timestamp.dayLength - 1, 0⟩
    let request := Request.ofTexts [("first_name", "Augusta")]
    let renamed := answer last request (after {} adaAlone)
    renamed.1.status = .ok ∧ (renamed.2.answer last request).1.status ≠ .ok := by
  decide +kernel

end Memory

end Bulletin
