import Bulletin.Proofs.Service.Shown
import Bulletin.Proofs.Time.Years

namespace Bulletin

variable {n k : Nat}

theorem Timestamp.Writable.write?_isSome {t : Timestamp} (h : t.Writable n) : t.write?.isSome := by
  rw [Timestamp.write?, Option.isSome_map]
  exact h.write_isSome

theorem User.write?_isSome_iff {user : User} :
    user.write?.isSome ↔ user.createdAt.write?.isSome ∧ user.updatedAt.write?.isSome := by
  cases hcreated : user.createdAt.write? <;> cases hupdated : user.updatedAt.write? <;>
    simp [User.write?, hcreated, hupdated]

theorem PostView.write?_isSome_iff {v : PostView} :
    v.write?.isSome ↔ v.post.createdAt.write?.isSome ∧ v.post.updatedAt.write?.isSome := by
  cases hcreated : v.post.createdAt.write? <;> cases hupdated : v.post.updatedAt.write? <;>
    simp [PostView.write?, hcreated, hupdated]

theorem Timestamp.write?_isSome_iff {t : Timestamp} :
    t.write?.isSome ↔ 0 ≤ t.date.year ∧ t.date.year ≤ 9999 := by
  rw [Timestamp.write?, Option.isSome_map, Rfc3339.write?, Option.isSome_ite]

theorem Timestamp.fourDigits_iff {t u : Timestamp} :
    FourDigits [t, u] ↔ t.write?.isSome ∧ u.write?.isSome := by
  rw [write?_isSome_iff, write?_isSome_iff, FourDigits, List.forall_mem_cons,
    List.forall_mem_singleton]

theorem writeList?_eq {α : Type} {write? : α → Option Bytes} {items : List α}
    (h : ∀ a ∈ items, (write? a).isSome) :
    writeList? write? items = some (Json.Write.list (items.map fun a => (write? a).getD [])) := by
  have hall : items.mapM write? = some (items.map fun a => (write? a).getD []) := by
    induction items with
    | nil => rfl
    | cons a items ih =>
      obtain ⟨text, htext⟩ := Option.isSome_iff_exists.1 (h a List.mem_cons_self)
      simp [htext, ih fun b hb => h b (List.mem_cons_of_mem _ hb)]
  rw [writeList?, hall, Option.map_some]

theorem writeList?_isSome {α : Type} {write? : α → Option Bytes} {items : List α}
    (h : ∀ a ∈ items, (write? a).isSome) : (writeList? write? items).isSome := by
  rw [writeList?_eq h, Option.isSome_some]

theorem isSome_of_writeList? {α : Type} {write? : α → Option Bytes} {items : List α} {body : Bytes}
    (h : writeList? write? items = some body) : ∀ a ∈ items, (write? a).isSome := by
  obtain ⟨texts, htexts, -⟩ := Option.map_eq_some_iff.1 h
  clear h
  induction items generalizing texts with
  | nil => exact nofun
  | cons a items ih =>
    simp only [List.mapM_cons, Option.bind_eq_bind, Option.bind_eq_some_iff] at htexts
    obtain ⟨text, ha, texts, hitems, -⟩ := htexts
    rintro b (_ | ⟨_, hb⟩)
    · rw [ha, Option.isSome_some]
    · exact ih texts hitems b hb

namespace Memory

variable {now : Timestamp} {e : Event} {m m' : Memory}

structure AllTimes (P : Timestamp → Prop) (m : Memory) : Prop where
  users : ∀ user ∈ m.users.values, P user.createdAt ∧ P user.updatedAt
  posts : ∀ post ∈ m.posts.values, P post.createdAt ∧ P post.updatedAt

section AllTimes

variable {P Q : Timestamp → Prop}

theorem allTimes_empty : AllTimes P {} where
  users := nofun
  posts := nofun

theorem AllTimes.imp (h : m.AllTimes P) (hPQ : ∀ t, P t → Q t) : m.AllTimes Q where
  users user huser := (h.users user huser).imp (hPQ _) (hPQ _)
  posts post hpost := (h.posts post hpost).imp (hPQ _) (hPQ _)

theorem AllTimes.and (hP : m.AllTimes P) (hQ : m.AllTimes Q) : m.AllTimes fun t => P t ∧ Q t where
  users user huser := and_and_and_comm.1 ⟨hP.users user huser, hQ.users user huser⟩
  posts post hpost := and_and_and_comm.1 ⟨hP.posts post hpost, hQ.posts post hpost⟩

theorem Step.allTimes (h : Step now m e m') (hm : m.Linked) (hP : m.AllTimes P)
    (hPQ : ∀ t, P t → Q t) (hnow : Q now) (hafter : ∀ t, P t → Q (t.after now)) :
    m'.AllTimes Q where
  users := by
    apply (Kind.step_users h).times hm.users (P := fun created updated => Q created ∧ Q updated)
      (hP.imp hPQ).users ⟨hnow, hnow⟩
    exact fun user huser => (hP.users user huser).imp (hPQ _) (hafter _)
  posts := by
    apply (Kind.step_posts h).times hm.posts (P := fun created updated => Q created ∧ Q updated)
      (hP.imp hPQ).posts ⟨hnow, hnow⟩
    exact fun post hpost => (hP.posts post hpost).imp (hPQ _) (hafter _)

end AllTimes

abbrev Writable (n : Nat) (m : Memory) : Prop := m.AllTimes (·.Writable n)

namespace Writable

theorem mono (h : m.Writable n) (hle : k ≤ n) : m.Writable k := h.imp fun _ ht => ht.mono hle

theorem user (h : m.Writable n) {user : User} (huser : user ∈ m.users.values) :
    user.write?.isSome :=
  User.write?_isSome_iff.2
    ((h.users user huser).imp Timestamp.Writable.write?_isSome Timestamp.Writable.write?_isSome)

theorem post (h : m.Writable n) {post : Post} (hpost : post ∈ m.posts.values) (name : String) :
    (PostView.write? ⟨post, name⟩).isSome :=
  PostView.write?_isSome_iff.2
    ((h.posts post hpost).imp Timestamp.Writable.write?_isSome Timestamp.Writable.write?_isSome)

end Writable

theorem Step.writable (h : Step now m e m') (hm : m.Linked) (hw : m.Writable (n + 1))
    (hnow : now.Writable n) : m'.Writable n :=
  h.allTimes hm hw (fun _ ht => ht.mono (Nat.le_succ n)) hnow fun _ ht => ht.after hnow

/-- All times of users and posts are among the given ones. -/
abbrev Dated (times : List Timestamp) (m : Memory) : Prop := m.AllTimes (· ∈ times)

variable {times : List Timestamp}

theorem Dated.tick (h : m.Dated times) (now : Timestamp) : m.Dated (Timestamp.tick times now) :=
  h.imp fun _ ht => Timestamp.mem_tick.2 (.inl ht)

theorem Dated.writable (h : m.Dated times) (htimes : ∀ t ∈ times, t.Writable n) :
    m.Writable n := h.imp htimes

theorem Step.dated (h : Step now m e m') (hm : m.Linked) (hd : m.Dated times) :
    m'.Dated (Timestamp.tick times now) :=
  h.allTimes hm hd (fun _ ht => Timestamp.mem_tick.2 (.inl ht))
    (Timestamp.mem_tick.2 (.inr (.inl rfl)))
    fun t ht => Timestamp.mem_tick.2 (.inr (.inr ⟨t, ht, rfl⟩))

end Memory

end Bulletin
