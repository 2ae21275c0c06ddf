import Mathlib.Data.List.Induction
import Bulletin.Proofs.Service.Reachable
import Bulletin.Proofs.Store.Turns
import Bulletin.Service.Concurrent

/-!
Handlers amid the calls of others. What a handler has found in the store may be gone by its next
call, so all that it goes by is what was there at one of its calls before.
-/

namespace Bulletin

variable {α β : Type} {turns : List Turn} {start : List Turn}

namespace Turn

def times (turns : List Turn) : List Timestamp := Timestamp.stamped (turns.map now)

theorem dated_store (turns : List Turn) :
    (store turns).Linked ∧ (store turns).Dated (times turns) := by
  induction turns using List.reverseRecOn with
  | nil => exact ⟨Memory.linked_empty, Memory.allTimes_empty⟩
  | append_singleton turns turn ih =>
    have hstep := Memory.exec_step turn.now (store turns) turn.call
    rw [store_concat]
    refine ⟨hstep.linked ih.1, ?_⟩
    rw [times, List.map_append, Timestamp.stamped_append]
    exact hstep.dated ih.1 ih.2

theorem mem_times_of_earlier {t : Timestamp} (h : start <+: turns) (ht : t ∈ times start) :
    t ∈ times turns := by
  obtain ⟨more, rfl⟩ := h
  rw [times, List.map_append]
  exact Timestamp.mem_stamped_append ht

theorem writable_store (hmore : start <+: turns) (htimes : ∀ t ∈ times turns, t.Writable 0) :
    (store start).Writable 0 :=
  (dated_store start).2.writable fun t ht => htimes t (mem_times_of_earlier hmore ht)

end Turn

theorem Memory.Step.contains_user {now : Timestamp} {e : Event} {m m' : Memory} {id : UserId}
    (h : Memory.Step now m e m') (hid : m.users.contains id) :
    m'.users.contains id ∨ e.call = .deleteUser id := by
  cases h with
  | createUser =>
    refine .inl ?_
    dsimp only
    exact Table.contains_add hid
  | updateUser => exact .inl (Table.contains_replace hid)
  | @deleteUser other =>
    by_cases heq : id = other
    · exact .inr (congrArg Call.deleteUser heq.symm)
    · exact .inl (Table.contains_erase hid heq)
  | _ => exact .inl hid

theorem Turn.deleted_of_lost {id : UserId} {more : List Turn}
    (hstart : (store start).users.contains id)
    (hlost : (store (start ++ more)).users.get? id = none) :
    ∃ deletion ∈ more, deletion.call = .deleteUser id := by
  -- The last turn took the user away, or the user was gone before it.
  induction more using List.reverseRecOn with
  | nil =>
    rw [List.append_nil] at hlost
    rw [Table.contains, hlost] at hstart
    cases hstart
  | append_singleton more turn ih =>
    rw [← List.append_assoc, store_concat] at hlost
    cases hmiddle : (store (start ++ more)).users.get? id with
    | none =>
      obtain ⟨deletion, hmem, hcall⟩ := ih hmiddle
      exact ⟨deletion, List.mem_append_left _ hmem, hcall⟩
    | some user =>
      have hstep := Memory.exec_step turn.now (store (start ++ more)) turn.call
      rcases hstep.contains_user (Option.isSome_iff_exists.2 ⟨user, hmiddle⟩) with hkept | hdeleted
      · rw [Table.contains, hlost] at hkept
        cases hkept
      · exact ⟨turn, by simp, hdeleted⟩

/-- What a request may fail for, after turns. -/
inductive Excused (i : Nat) (shows : Prop) (turns : List Turn) : ServiceError → Prop
  | refused {e} : e.status ≠ .internalError → Excused i shows turns e
  | unwritable {reason} : (¬ ∀ t ∈ Turn.times turns, t.Writable 0) →
    Excused i shows turns (.unwritable reason)
  | overtaken {d} : shows → Overtaken i d turns → Excused i shows turns (.orphan d)

namespace Handler

/-- Amid the calls of others, the handler succeeds with what is asked for, or it is excused. -/
def Guarded (i : Nat) (shows : Prop) (Q : α → List Turn → Prop) (h : Handler α)
    (turns : List Turn) : Prop :=
  Amid i (fun outcome turns => match outcome with
    | .ok a => Q a turns
    | .error e => Excused i shows turns e) h.run turns

variable {i : Nat} {shows : Prop} {Q : α → List Turn → Prop}

theorem guarded_pure {a : α} (h : Q a turns) : Guarded i shows Q (pure a) turns := h

theorem guarded_throw {e : ServiceError} (h : Excused i shows turns e) :
    Guarded i shows Q (throw e) turns := h

theorem Guarded.bind {h : Handler α} {f : α → Handler β} {R : β → List Turn → Prop}
    (hh : Guarded i shows (fun a turns => Guarded i shows R (f a) turns) h turns) :
    Guarded i shows R (h >>= f) turns := by
  apply Amid.bind
  apply Amid.imp hh
  intro outcome turns houtcome
  cases outcome with
  | ok a => exact houtcome
  | error e => exact houtcome

theorem guarded_found {e : ServiceError} {a? : Option α} (he : e.status ≠ .internalError)
    (h : ∀ a, a? = some a → Q a turns) : Guarded i shows Q (found e a?) turns := by
  cases a? with
  | none => exact Excused.refused he
  | some a => exact h a rfl

theorem Guarded.discard {h : Handler α} {R : Unit → List Turn → Prop}
    (hh : Guarded i shows (fun _ turns => R () turns) h turns) :
    Guarded i shows R (discard h) turns := Guarded.bind hh

theorem guarded_parse {form : Form α} {mode : Intent} {payload : Json.Members}
    (h : ∀ a, Q a turns) : Guarded i shows Q (parse form mode payload) turns := by
  unfold parse
  cases form.parse mode payload with
  | error errors => exact Excused.refused (by simp [ServiceError.status])
  | ok a => exact h a

theorem guarded_call {c : Call} {Q : c.Result → List Turn → Prop}
    (h : ∀ others now result, (Turn.store (turns ++ others)).exec now c =
      (.ok result, Turn.store (turns ++ others ++ [⟨i, now, c⟩])) →
      Q result (turns ++ others ++ [⟨i, now, c⟩])) : Guarded i shows Q (call c) turns := by
  intro others now
  have hstore := Turn.store_concat (turns ++ others) ⟨i, now, c⟩
  have hnext := h others now
  cases hexec : (Turn.store (turns ++ others)).exec now c with
  | mk reply m' =>
    rw [hexec] at hstore hnext
    cases reply with
    | error e => exact Excused.refused (exec_error hexec).2
    | ok result => exact hnext result (by rw [hstore])

theorem guarded_respond {status : Status} {body : Option Bytes} (hstatus : status ≠ .internalError)
    (hbody : (∀ t ∈ Turn.times turns, t.Writable 0) → body.isSome) :
    Guarded i shows (fun r _ => Response.status r ≠ .internalError)
      (respond status body) turns := by
  cases body with
  | none => exact Excused.unwritable fun htimes => absurd (hbody htimes) (by decide)
  | some body => exact hstatus

structure Found (i : Nat) (start : List Turn) (post : Post) : Prop where
  last : ∃ before found, start = before ++ [found] ∧ found.program = i
  mem : post ∈ (Turn.store start).posts.values

def Looked (i : Nat) (start : List Turn) (id : UserId) (user? : Option User) (turns : List Turn) :
    Prop :=
  ∃ between now later, turns = start ++ between ++ ⟨i, now, .fetchUser id⟩ :: later ∧
    user? = (Turn.store (start ++ between)).users.get? id

theorem Looked.mono {id : UserId} {user? : Option User} {turns' : List Turn}
    (h : Looked i start id user? turns) (hmore : turns <+: turns') :
    Looked i start id user? turns' := by
  obtain ⟨between, now, later, rfl, huser⟩ := h
  obtain ⟨more, rfl⟩ := hmore
  exact ⟨between, now, later ++ more, by simp, huser⟩

theorem Found.overtaken {post : Post} (hfound : Found i start post)
    (hlooked : Looked i start post.author none turns) :
    Overtaken i ⟨post.id, post.author⟩ turns := by
  obtain ⟨before, found, rfl, hprogram⟩ := hfound.last
  obtain ⟨between, now, later, rfl, hlost⟩ := hlooked
  have hauthor := (Turn.dated_store (before ++ [found])).1.authors post hfound.mem
  refine ⟨before, found, between, ⟨i, now, .fetchUser post.author⟩, later, by simp, hprogram, rfl,
    rfl, ⟨post, hfound.mem, rfl, rfl⟩, ?_⟩
  exact Turn.deleted_of_lost hauthor hlost.symm

theorem Found.isSome (shown : PostView) (hfound : Found i start shown.post)
    (hmore : start <+: turns) (htimes : ∀ t ∈ Turn.times turns, t.Writable 0) :
    shown.write?.isSome :=
  (Turn.writable_store hmore htimes).post hfound.mem shown.authorName

section Viewing

variable (hshows : shows)

theorem guarded_lookup {id : UserId} {Q : Option User → List Turn → Prop} (hstart : start <+: turns)
    (h : ∀ user? turns', turns <+: turns' → Looked i start id user? turns' → Q user? turns') :
    Guarded i shows Q (fetchUser id) turns := by
  refine guarded_call (c := .fetchUser id) fun others now user? hexec => ?_
  obtain ⟨more, rfl⟩ := hstart
  apply h
  · rw [List.append_assoc (start ++ more)]
    exact List.prefix_append _ _
  · refine ⟨more ++ others, now, [], by simp, ?_⟩
    rw [← List.append_assoc]
    exact (Except.ok.inj (Prod.mk.inj hexec).1).symm

include hshows in
theorem guarded_view {post : Post} {user? : Option User} {Q : PostView → List Turn → Prop}
    (hfound : Found i start post) (hlooked : Looked i start post.author user? turns)
    (h : ∀ shown, shown.post = post → Q shown turns) :
    Guarded i shows Q (view post user?) turns := by
  cases user? with
  | none => exact Excused.overtaken hshows (hfound.overtaken hlooked)
  | some author =>
    obtain ⟨between, now, later, rfl, huser⟩ := hlooked
    have hlinked := (Turn.dated_store (start ++ between)).1
    have hid := (hlinked.users.get?_eq_some_iff.1 huser.symm).2
    unfold view
    rw [render_some hid]
    exact h _ rfl

include hshows in
theorem guarded_viewPost {post : Post} {Q : PostView → List Turn → Prop}
    (hfound : Found i start post) (hstart : start <+: turns)
    (h : ∀ shown turns', turns <+: turns' → shown.post = post → Q shown turns') :
    Guarded i shows Q (viewPost post) turns := by
  apply Guarded.bind
  apply guarded_lookup hstart
  intro user? turns' hmore hlooked
  exact guarded_view hshows hfound hlooked fun shown hpost => h shown turns' hmore hpost

def Known.At (i : Nat) (start turns : List Turn) (known : Known) : Prop :=
  ∀ id user?, known.lookup id = some user? → Looked i start id user? turns

theorem guarded_learn {known : Known} {id : UserId} {Q : Known → List Turn → Prop}
    (hstart : start <+: turns) (hknown : known.At i start turns)
    (h : ∀ (known' : Known) turns' user?, turns <+: turns' → known'.At i start turns' →
      known'.lookup id = some user? → Q known' turns') :
    Guarded i shows Q (learn known id) turns := by
  unfold learn
  split
  case h_1 user? hlookup => exact h known turns user? (List.prefix_refl _) hknown hlookup
  case h_2 =>
    apply Guarded.bind
    apply guarded_lookup hstart
    intro user? turns' hmore hlooked
    refine h _ turns' user? hmore ?_ (by simp)
    intro other user?' hlookup
    rw [List.lookup_cons] at hlookup
    split at hlookup
    case h_1 heq =>
      rw [eq_of_beq heq, ← Option.some.inj hlookup]
      exact hlooked
    case h_2 => exact (hknown other user?' hlookup).mono hmore

include hshows in
theorem guarded_viewPosts {posts : List Post} (hfound : ∀ post ∈ posts, Found i start post)
    {known : Known} {turns : List Turn} {Q : List PostView → List Turn → Prop}
    (hstart : start <+: turns) (hknown : known.At i start turns)
    (h : ∀ views turns', turns <+: turns' → views.map PostView.post = posts → Q views turns') :
    Guarded i shows Q (viewPosts known posts) turns := by
  induction posts generalizing known turns Q with
  | nil => exact h [] turns (List.prefix_refl _) rfl
  | cons post posts ih =>
    apply Guarded.bind
    apply guarded_learn hstart hknown
    intro known' turns₁ user? hmore₁ hknown' hlookup
    apply Guarded.bind
    rw [hlookup]
    apply guarded_view hshows (hfound post List.mem_cons_self) (hknown' _ _ hlookup)
    intro shown hpost
    apply Guarded.bind
    apply ih (fun post hmem => hfound post (List.mem_cons_of_mem _ hmem)) (hstart.trans hmore₁)
      hknown'
    intro views turns₂ hmore₂ hviews
    exact h _ turns₂ (hmore₁.trans hmore₂) (by rw [List.map_cons, hpost, hviews])

end Viewing

end Handler

end Bulletin
