import Bulletin.Proofs.Service.Path
import Bulletin.Proofs.Service.Settled

namespace Bulletin

variable {α β : Type} {now : Timestamp} {m m' : Memory} {request : Request} {r : Response}
variable {mode : Intent} {payload : Json.Members}

namespace Memory

structure TakesUser (m : Memory) (mode : Intent) (payload : Json.Members) (user : User)
    (changes : UserChanges) : Prop where
  found : m.users.get? user.id = some user
  parsed : Form.userChanges.parse mode payload = .ok changes
  free : ∀ email, changes.email = some email → m.emailInUse email (some user.id) = false

structure TakesPost (m : Memory) (mode : Intent) (payload : Json.Members) (post : Post)
    (changes : PostChanges) : Prop where
  found : m.posts.get? post.id = some post
  parsed : Form.postChanges.parse mode payload = .ok changes
  known : ∀ author, changes.author = some author → m.users.contains author

section Takes

variable {user : User} {post : Post} {userChanges : UserChanges} {postChanges : PostChanges}

theorem TakesUser.linked (hm : m.Linked) (h : m.TakesUser mode payload user userChanges) :
    (m.withUser (userChanges.revise now user)).Linked :=
  (Step.updateUser h.found h.free).linked hm

theorem TakesPost.linked (hm : m.Linked) (h : m.TakesPost mode payload post postChanges) :
    (m.withPost (postChanges.revise now post)).Linked :=
  (Step.updatePost h.found h.known).linked hm

theorem TakesPost.author (hm : m.Linked) (h : m.TakesPost mode payload post postChanges) :
    m.users.contains (postChanges.revise now post).author := by
  simp only [PostChanges.revise, PostChanges.applyTo]
  cases hchange : postChanges.author with
  | none => exact hm.authors post (hm.posts.get?_eq_some_iff.1 h.found).1
  | some author => exact h.known author hchange

end Takes

end Memory

namespace Handler

theorem on_discard_found {e : ServiceError} {a? : Option α} {a : α} {f : Unit → Handler β}
    (h : a? = some a) : (discard (found e a?) >>= f).on now m = (f ()).on now m := by
  rw [h]
  exact on_bind_ok rfl

theorem on_parse_bind {form : Form α} {a : α} {f : α → Handler β}
    (h : form.parse mode payload = .ok a) :
    (parse form mode payload >>= f).on now m = (f a).on now m := by
  apply on_bind_ok
  rw [on_parse, h]
  rfl

section User

variable {user : User} {changes : UserChanges} {body : Bytes}

section Refused

variable {id : UserId} (hfound : m.users.get? id = some user)
include hfound

theorem on_updateUser_offended {errors : FieldErrors}
    (h : Form.userChanges.parse mode payload = .error errors) :
    (updateUser mode id payload).on now m = (.error (.validation errors), m) := by
  rw [updateUser, on_bind_ok (on_fetchUser _), on_discard_found hfound, on_bind, on_parse, h]
  rfl

theorem on_updateUser_taken {email : Email}
    (hparsed : Form.userChanges.parse mode payload = .ok changes)
    (hemail : changes.email = some email) (htaken : m.emailInUse email (some id)) :
    (updateUser mode id payload).on now m = (.error (.ofStore (.emailTaken email)), m) := by
  have hexec : m.exec now (.updateUser id changes) = (.error (.emailTaken email), m) :=
    Memory.updateUser_of_taken hemail htaken
  rw [updateUser, on_bind_ok (on_fetchUser _), on_discard_found hfound, on_parse_bind hparsed,
    on_bind, on_call, hexec]
  rfl

end Refused

theorem on_updateUser_takes (h : m.TakesUser mode payload user changes) :
    (updateUser mode user.id payload).on now m =
      (respond .ok (changes.revise now user).write?).on now
        (m.withUser (changes.revise now user)) := by
  have hexec : m.exec now (.updateUser user.id changes) =
      (.ok (some (changes.revise now user)), m.withUser (changes.revise now user)) :=
    Memory.updateUser_of_free h.found h.free
  rw [updateUser, on_bind_ok (on_fetchUser _), on_discard_found h.found, on_parse_bind h.parsed,
    on_bind_ok (on_call_ok hexec)]
  rfl

theorem on_updateUser (h : m.TakesUser mode payload user changes)
    (hwrite : (changes.revise now user).write? = some body) :
    (updateUser mode user.id payload).on now m =
      (.ok (.json .ok body), m.withUser (changes.revise now user)) := by
  rw [on_updateUser_takes h, hwrite]
  rfl

theorem ok_of_updateUser {id : UserId} (hm : m.Linked)
    (hon : (updateUser mode id payload).on now m = (.ok r, m')) :
    ∃ user changes body, user.id = id ∧ m.TakesUser mode payload user changes ∧
      (changes.revise now user).write? = some body ∧
        r = .json .ok body ∧ m' = m.withUser (changes.revise now user) := by
  obtain ⟨_, _, hfetch, hon⟩ := ok_of_bind hon
  cases hfetch
  obtain ⟨_, _, hfound, hon⟩ := ok_of_discard hon
  obtain ⟨-, rfl⟩ := ok_of_found hfound
  obtain ⟨changes, _, hparse, hon⟩ := ok_of_bind hon
  obtain ⟨hparsed, rfl⟩ := on_parse_ok hparse
  obtain ⟨result, _, hcall, hon⟩ := ok_of_bind hon
  obtain ⟨user, _, hfound, hon⟩ := ok_of_bind hon
  obtain ⟨rfl, rfl⟩ := ok_of_found hfound
  obtain ⟨body, hbody, rfl, rfl⟩ := ok_of_respond hon
  cases step_of_exec (ok_of_call hcall) with
  | idle h => cases h
  | @updateUser _ _ old hold hfree =>
    obtain ⟨-, rfl⟩ := hm.users.get?_eq_some_iff.1 hold
    exact ⟨old, changes, body, rfl, ⟨hold, hparsed, hfree⟩, hbody, rfl, rfl⟩

end User

section Post

variable {post : Post} {changes : PostChanges} {body : Bytes}

section Refused

variable {id : PostId} (hfound : m.posts.get? id = some post)
include hfound

theorem on_updatePost_offended {errors : FieldErrors}
    (h : Form.postChanges.parse mode payload = .error errors) :
    (updatePost mode id payload).on now m = (.error (.validation errors), m) := by
  rw [updatePost, on_bind_ok (on_fetchPost _), on_discard_found hfound, on_bind, on_parse, h]
  rfl

theorem on_updatePost_unknown {author : UserId}
    (hparsed : Form.postChanges.parse mode payload = .ok changes)
    (hauthor : changes.author = some author) (hunknown : m.users.get? author = none) :
    (updatePost mode id payload).on now m = (.error (.unknownAuthor author), m) := by
  have hresolve :
      (discard (resolveAuthor author)).on now m = (.error (.unknownAuthor author), m) := by
    rw [on_discard, resolveAuthor, on_bind_ok (on_fetchUser _), hunknown]
    rfl
  rw [updatePost, on_bind_ok (on_fetchPost _), on_discard_found hfound, on_parse_bind hparsed]
  dsimp only
  rw [hauthor]
  change (discard (resolveAuthor author) >>= _).on now m = _
  rw [on_bind, hresolve]

end Refused

theorem on_revisePost (hm : m.Linked) (h : m.TakesPost mode payload post changes) :
    (do
      let revised : Post ← found (.postNotFound post.id) (← call (.updatePost post.id changes))
      respond .ok (← viewPost revised).write? : Handler Response).on now m =
      (respond .ok ((m.withPost (changes.revise now post)).shown
        (changes.revise now post)).write?).on now (m.withPost (changes.revise now post)) := by
  have hexec : m.exec now (.updatePost post.id changes) =
      (.ok (some (changes.revise now post)), m.withPost (changes.revise now post)) :=
    Memory.updatePost_of_known h.found h.known
  have hauthor : m.users.contains (changes.revise now post).author := h.author hm
  have hview : (viewPost (changes.revise now post)).on now
      (m.withPost (changes.revise now post)) = (.ok _, _) := on_viewPost (h.linked hm) hauthor
  exact (on_bind_ok (on_call_ok hexec)).trans (on_bind_ok hview)

theorem on_updatePost_takes (hm : m.Linked) (h : m.TakesPost mode payload post changes) :
    (updatePost mode post.id payload).on now m =
      (respond .ok ((m.withPost (changes.revise now post)).shown
        (changes.revise now post)).write?).on now (m.withPost (changes.revise now post)) := by
  rw [updatePost, on_bind_ok (on_fetchPost _), on_discard_found h.found, on_parse_bind h.parsed]
  cases hchange : changes.author with
  | none => exact on_revisePost hm h
  | some author =>
    obtain ⟨user, hfound⟩ := Option.isSome_iff_exists.1 (h.known author hchange)
    have hresolve : (discard (resolveAuthor author)).on now m = (.ok (), m) := by
      rw [on_discard, resolveAuthor, on_bind_ok (on_fetchUser _), hfound]
      rfl
    exact (on_bind_ok hresolve).trans (on_revisePost hm h)

theorem on_updatePost (hm : m.Linked) (h : m.TakesPost mode payload post changes)
    (hwrite : ((m.withPost (changes.revise now post)).shown (changes.revise now post)).write? =
      some body) :
    (updatePost mode post.id payload).on now m =
      (.ok (.json .ok body), m.withPost (changes.revise now post)) := by
  rw [on_updatePost_takes hm h, hwrite]
  rfl

theorem ok_of_revisePost {id : PostId} (hm : m.Linked)
    (hparsed : Form.postChanges.parse mode payload = .ok changes)
    (hon : (do
      let post : Post ← found (.postNotFound id) (← call (.updatePost id changes))
      respond .ok (← viewPost post).write? : Handler Response).on now m = (.ok r, m')) :
    ∃ post body, post.id = id ∧ m.TakesPost mode payload post changes ∧
      ((m.withPost (changes.revise now post)).shown (changes.revise now post)).write? = some body ∧
        r = .json .ok body ∧ m' = m.withPost (changes.revise now post) := by
  obtain ⟨result, _, hcall, hon⟩ := ok_of_bind hon
  obtain ⟨post, _, hfound, hon⟩ := ok_of_bind hon
  obtain ⟨rfl, rfl⟩ := ok_of_found hfound
  obtain ⟨view, _, hview, hon⟩ := ok_of_bind hon
  obtain ⟨hrender, rfl⟩ := ok_of_viewPost hview
  obtain ⟨body, hbody, rfl, rfl⟩ := ok_of_respond hon
  cases step_of_exec (ok_of_call hcall) with
  | idle h => cases h
  | @updatePost _ _ old hold hknown =>
    obtain ⟨-, rfl⟩ := hm.posts.get?_eq_some_iff.1 hold
    have htakes : m.TakesPost mode payload old changes := ⟨hold, hparsed, hknown⟩
    have hauthor : m.users.contains (changes.revise now old).author := htakes.author hm
    obtain rfl := Except.ok.inj (hrender.symm.trans (render_eq (htakes.linked hm) hauthor))
    exact ⟨old, body, rfl, htakes, hbody, rfl, rfl⟩

theorem ok_of_updatePost {id : PostId} (hm : m.Linked)
    (hon : (updatePost mode id payload).on now m = (.ok r, m')) :
    ∃ post changes body, post.id = id ∧ m.TakesPost mode payload post changes ∧
      ((m.withPost (changes.revise now post)).shown (changes.revise now post)).write? = some body ∧
        r = .json .ok body ∧ m' = m.withPost (changes.revise now post) := by
  obtain ⟨_, _, hfetch, hon⟩ := ok_of_bind hon
  cases hfetch
  obtain ⟨_, _, hfound, hon⟩ := ok_of_discard hon
  obtain ⟨-, rfl⟩ := ok_of_found hfound
  obtain ⟨changes, _, hparse, hon⟩ := ok_of_bind hon
  obtain ⟨hparsed, rfl⟩ := on_parse_ok hparse
  cases hauthor : changes.author with
  | none =>
    rw [hauthor] at hon
    obtain ⟨post, body, h⟩ := ok_of_revisePost hm hparsed hon
    exact ⟨post, changes, body, h⟩
  | some author =>
    rw [hauthor] at hon
    obtain ⟨_, _, hresolve, hon⟩ := ok_of_discard hon
    obtain ⟨-, rfl⟩ := on_resolveAuthor_ok hresolve
    obtain ⟨post, body, h⟩ := ok_of_revisePost hm hparsed hon
    exact ⟨post, changes, body, h⟩

end Post

end Handler

def Service.Serves (method : String) (mode : Intent) : Prop :=
  method = "PUT" ∧ mode = .replace ∨ method = "PATCH" ∧ mode = .patch

theorem Service.exists_serves {method : String} (hmethod : method = "PUT" ∨ method = "PATCH") :
    ∃ mode, Serves method mode := by
  rcases hmethod with rfl | rfl
  · exact ⟨.replace, .inl ⟨rfl, rfl⟩⟩
  · exact ⟨.patch, .inr ⟨rfl, rfl⟩⟩

end Bulletin
