import Bulletin.Proofs.Store.Step
import Bulletin.Store.Kind

namespace Bulletin

namespace Event

variable {e : Event} (h : e.wrote = false)
include h

theorem changedUser?_of_not_wrote : e.changedUser? = none := by
  unfold changedUser?
  split
  · cases h
  · rfl

theorem changedPost?_of_not_wrote : e.changedPost? = none := by
  unfold changedPost?
  split
  · cases h
  · rfl

end Event

namespace Kind

variable {entity : Entity} {α : Type} {k : Kind entity α}
variable {now : Timestamp} {e : Event} {m m' : Memory} {a b : α} {later : History}

/-- What one call can do to the users, or to the posts. -/
inductive Step (k : Kind entity α) (now : Timestamp) (m : Memory) (e : Event) (m' : Memory) : Prop
  | kept : k.created? e = none → k.changed? e = none → k.table m' = k.table m → Step k now m e m'
  | created {f : Id entity → α} : k.created? e = some (f ⟨(k.table m).last + 1⟩) →
    k.changed? e = none → k.table m' = ((k.table m).add f).2 →
    (∀ id, k.ident (f id) = id ∧ k.createdAt (f id) = now ∧ k.updatedAt (f id) = now) →
    Step k now m e m'
  | changed {id old new} : k.created? e = none → k.changed? e = some new →
    (k.table m).get? id = some old → k.table m' = (k.table m).replace id new →
    k.ident new = k.ident old → k.createdAt new = k.createdAt old →
    k.updatedAt new = (k.updatedAt old).after now → Step k now m e m'
  | erased {id} : k.created? e = none → k.changed? e = none →
    k.table m' = (k.table m).erase id → Step k now m e m'
  | filtered {p} : k.created? e = none → k.changed? e = none →
    k.table m' = (k.table m).filter p → Step k now m e m'

theorem step_users (h : Memory.Step now m e m') : users.Step now m e m' := by
  cases h with
  | idle he =>
    exact .kept (Event.createdUser?_of_not_wrote he) (Event.changedUser?_of_not_wrote he) rfl
  | @createUser new =>
    exact .created (f := fun id => new.toUser id now) rfl rfl rfl fun _ => ⟨rfl, rfl, rfl⟩
  | updateUser hfound => exact .changed rfl rfl hfound rfl rfl rfl rfl
  | deleteUser => exact .erased rfl rfl rfl
  | createPost | updatePost | deletePost => exact .kept rfl rfl rfl

theorem step_posts (h : Memory.Step now m e m') : posts.Step now m e m' := by
  cases h with
  | idle he =>
    exact .kept (Event.createdPost?_of_not_wrote he) (Event.changedPost?_of_not_wrote he) rfl
  | @createPost new =>
    exact .created (f := fun id => new.toPost id now) rfl rfl rfl fun _ => ⟨rfl, rfl, rfl⟩
  | updatePost hfound => exact .changed rfl rfl hfound rfl rfl rfl rfl
  | @deleteUser id => exact .filtered (p := fun post => post.author ≠ id) rfl rfl rfl
  | deletePost => exact .erased rfl rfl rfl
  | createUser | updateUser => exact .kept rfl rfl rfl

/-- Whatever is called, no more is done to what the store has of the kind. -/
def Stepwise (k : Kind entity α) : Prop :=
  ∀ now m c, k.Step now m ⟨c, (m.exec now c).1⟩ (m.exec now c).2

theorem stepwise_users : users.Stepwise := fun now m c => step_users (Memory.exec_step now m c)

theorem stepwise_posts : posts.Stepwise := fun now m c => step_posts (Memory.exec_step now m c)

namespace Step

variable (h : k.Step now m e m')
include h

theorem mem (ha : a ∈ (k.table m').values) :
    k.created? e = some a ∨ k.changed? e = some a ∨ a ∈ (k.table m).values := by
  cases h with
  | kept _ _ ht =>
    rw [ht] at ha
    exact .inr (.inr ha)
  | created hcreated _ ht _ =>
    rw [ht] at ha
    rcases Table.mem_values_add ha with rfl | ha
    · exact .inl hcreated
    · exact .inr (.inr ha)
  | changed _ hchanged _ ht =>
    rw [ht] at ha
    rcases Table.mem_values_of_mem_replace ha with rfl | ha
    · exact .inr (.inl hchanged)
    · exact .inr (.inr ha)
  | erased _ _ ht =>
    rw [ht] at ha
    exact .inr (.inr (Table.mem_values_of_mem_erase ha))
  | filtered _ _ ht =>
    rw [ht] at ha
    exact .inr (.inr (Table.mem_values_of_mem_filter ha))

theorem all {P : α → Prop} (hm : ∀ a ∈ (k.table m).values, P a)
    (hcreated : ∀ a ∈ k.created? e, P a) (hchanged : ∀ a ∈ k.changed? e, P a) :
    ∀ a ∈ (k.table m').values, P a := by
  intro a ha
  obtain ha | ha | ha := h.mem ha
  · exact hcreated a ha
  · exact hchanged a ha
  · exact hm a ha

theorem of_created (ha : k.created? e = some a) : (k.table m').get? (k.ident a) = some a ∧
    k.createdAt a = now ∧ k.updatedAt a = now := by
  cases h with
  | @created f hcreated _ ht hrow =>
    obtain rfl := Option.some.inj (hcreated.symm.trans ha)
    obtain ⟨hid, htimes⟩ := hrow ⟨(k.table m).last + 1⟩
    rw [ht, hid]
    exact ⟨Table.get?_add f, htimes⟩
  | kept hcreated | changed hcreated | erased hcreated | filtered hcreated =>
    rw [hcreated] at ha
    cases ha

variable (hm : (k.table m).Keyed k.ident)
include hm

theorem of_changed (ha : k.changed? e = some a) : (k.table m').get? (k.ident a) = some a ∧
    ∃ old, (k.table m).get? (k.ident old) = some old ∧ k.ident a = k.ident old ∧
      k.createdAt a = k.createdAt old ∧ k.updatedAt a = (k.updatedAt old).after now := by
  cases h with
  | @changed id old new _ hchanged hold ht hid hcreatedAt hupdatedAt =>
    obtain rfl := Option.some.inj (hchanged.symm.trans ha)
    obtain ⟨-, rfl⟩ := hm.get?_eq_some_iff.1 hold
    refine ⟨?_, old, hold, hid, hcreatedAt, hupdatedAt⟩
    rw [ht, hid]
    exact Table.get?_replace hold new
  | kept _ hchanged | created _ hchanged | erased _ hchanged | filtered _ hchanged =>
    rw [hchanged] at ha
    cases ha

theorem keyed : (k.table m').Keyed k.ident := by
  cases h with
  | kept _ _ ht =>
    rw [ht]
    exact hm
  | created _ _ ht hrow =>
    rw [ht]
    exact hm.add fun id => (hrow id).1
  | changed _ _ hold ht hid =>
    rw [ht]
    exact hm.replace (hid.trans (hm.get?_eq_some_iff.1 hold).2)
  | erased _ _ ht =>
    rw [ht]
    exact hm.erase _
  | filtered _ _ ht =>
    rw [ht]
    exact hm.filter _

/-- A condition on times holds of all that there is if it holds of the times that are given. -/
theorem times {P : Timestamp → Timestamp → Prop}
    (hold : ∀ a ∈ (k.table m).values, P (k.createdAt a) (k.updatedAt a)) (hnow : P now now)
    (hafter : ∀ a ∈ (k.table m).values, P (k.createdAt a) ((k.updatedAt a).after now)) :
    ∀ a ∈ (k.table m').values, P (k.createdAt a) (k.updatedAt a) := by
  apply h.all hold
  · intro a ha
    obtain ⟨-, hcreatedAt, hupdatedAt⟩ := h.of_created ha
    rw [hcreatedAt, hupdatedAt]
    exact hnow
  · intro a ha
    obtain ⟨-, old, hget, -, hcreatedAt, hupdatedAt⟩ := h.of_changed hm ha
    rw [hcreatedAt, hupdatedAt]
    exact hafter old (hm.get?_eq_some_iff.1 hget).1

theorem ordered
    (hold : ∀ a ∈ (k.table m).values, (k.createdAt a).instant ≤ (k.updatedAt a).instant) :
    ∀ a ∈ (k.table m').values, (k.createdAt a).instant ≤ (k.updatedAt a).instant := by
  apply h.times hm (P := fun created updated => created.instant ≤ updated.instant) hold
  · exact Int.le_refl _
  · intro a ha
    have hafter := Int.le_of_lt (Timestamp.lt_after (k.updatedAt a) now)
    exact Int.le_trans (hold a ha) hafter

end Step

section Holds

variable {c : Call} {reply : c.Reply} (hk : k.Stepwise) (hkeyed : (k.table m).Keyed k.ident)
variable (hexec : m.exec now c = (reply, m'))
variable (ha : k.created? ⟨c, reply⟩ = some a ∨ k.changed? ⟨c, reply⟩ = some a)
include hk hkeyed hexec ha

theorem holds_of_exec : k.Holds m' a := by
  have hstep := hk now m c
  rw [hexec] at hstep
  rcases ha with ha | ha
  · exact (hstep.of_created ha).1
  · exact (hstep.of_changed hkeyed ha).1

theorem mem_of_exec : a ∈ (k.table m').values := by
  have hstep := hk now m c
  rw [hexec] at hstep
  exact ((hstep.keyed hkeyed).get?_eq_some_iff.1 (holds_of_exec hk hkeyed hexec ha)).1

end Holds

/-- The counter of ids does not start over in the course of a history. -/
def Room (k : Kind entity α) (m : Memory) (h : History) : Prop :=
  (k.table m).last.toNat + (h.filterMap k.created?).length < 2 ^ 64

theorem created_cons (k : Kind entity α) (e : Event) (h : History) :
    List.filterMap k.created? (e :: h) = (k.created? e).toList ++ h.filterMap k.created? := by
  cases he : k.created? e <;> simp [he]

theorem Room.next (hroom : k.Room m (e :: later)) (ha : k.created? e = some a) :
    (k.table m).last.toNat + 1 < 2 ^ 64 := by
  rw [Room, created_cons, ha, List.length_append] at hroom
  exact Nat.lt_of_le_of_lt (Nat.add_le_add_left (Nat.le_add_right 1 _) _) hroom

namespace Step

variable (h : k.Step now m e m') (hroom : k.Room m (e :: later))
include h hroom

theorem last :
    (k.table m').last.toNat = (k.table m).last.toNat + (k.created? e).toList.length := by
  cases h with
  | created hcreated _ ht =>
    rw [ht, hcreated]
    exact Table.toNat_next (hroom.next hcreated)
  | kept hcreated _ ht | changed hcreated _ _ ht | erased hcreated _ ht | filtered hcreated _ ht =>
    rw [ht, hcreated]
    rfl

theorem number (ha : k.created? e = some a) :
    (k.ident a).number.toNat = (k.table m).last.toNat + 1 := by
  cases h with
  | created hcreated _ _ hrow =>
    obtain rfl := Option.some.inj (hcreated.symm.trans ha)
    rw [(hrow _).1]
    exact Table.toNat_next (hroom.next hcreated)
  | kept hcreated | changed hcreated | erased hcreated | filtered hcreated =>
    rw [hcreated] at ha
    cases ha

theorem room : k.Room m' later := by
  rw [Room, h.last hroom, Nat.add_assoc, ← List.length_append, ← created_cons]
  exact hroom

theorem numbered (hm : (k.table m).Keyed k.ident) (hn : (k.table m).Numbered k.ident) :
    (k.table m').Numbered k.ident := by
  cases h with
  | kept _ _ ht =>
    rw [ht]
    exact hn
  | created hcreated _ ht hrow =>
    rw [ht]
    exact hn.add hm (hroom.next hcreated) fun id => (hrow id).1
  | changed _ _ hold ht hid =>
    rw [ht]
    exact hn.replace hm hold hid
  | erased _ _ ht =>
    rw [ht]
    exact hn.erase _
  | filtered _ _ ht =>
    rw [ht]
    exact hn.filter _

end Step

end Kind

end Bulletin
