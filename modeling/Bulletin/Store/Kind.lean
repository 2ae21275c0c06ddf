import Bulletin.Store.History

namespace Bulletin

namespace Event

def changedUser? : Event → Option User
  | ⟨.updateUser _ _, .ok (some user)⟩ => some user
  | _ => none

def changedPost? : Event → Option Post
  | ⟨.updatePost _ _, .ok (some post)⟩ => some post
  | _ => none

end Event

structure Kind (entity : Entity) (α : Type) where
  table : Memory → Table entity α
  created? : Event → Option α
  changed? : Event → Option α
  ident : α → Id entity
  createdAt : α → Timestamp
  updatedAt : α → Timestamp

namespace Kind

def users : Kind .user User where
  table := Memory.users
  created? := Event.createdUser?
  changed? := Event.changedUser?
  ident := User.id
  createdAt := User.createdAt
  updatedAt := User.updatedAt

def posts : Kind .post Post where
  table := Memory.posts
  created? := Event.createdPost?
  changed? := Event.changedPost?
  ident := Post.id
  createdAt := Post.createdAt
  updatedAt := Post.updatedAt

variable {entity : Entity} {α : Type} (k : Kind entity α)

def Holds (m : Memory) (a : α) : Prop := (k.table m).get? (k.ident a) = some a

/-- What is created has the time of the call, what is changed a later time than before, and
everything else that there is afterwards was there as it is. -/
structure Follows (m : Memory) (now : Timestamp) (e : Event) (m' : Memory) : Prop where
  created : ∀ a ∈ k.created? e, k.Holds m' a ∧ k.createdAt a = now ∧ k.updatedAt a = now
  changed : ∀ a ∈ k.changed? e, k.Holds m' a ∧ ∃ old, k.Holds m old ∧ k.ident old = k.ident a ∧
    k.createdAt old = k.createdAt a ∧ (k.updatedAt old).instant < (k.updatedAt a).instant
  kept : ∀ a, k.Holds m' a → k.created? e ≠ some a → k.changed? e ≠ some a → k.Holds m a

/-- What has become of `b` in the end, after every change to it at a later time. -/
structure Becomes (b : α) (h : History) (a : α) : Prop where
  ident : k.ident a = k.ident b
  createdAt : k.createdAt a = k.createdAt b
  unchanged : (∀ c ∈ h.filterMap k.changed?, k.ident c ≠ k.ident b) → a = b
  changed : ∀ c ∈ h.filterMap k.changed?, k.ident c = k.ident b →
    (k.updatedAt b).instant < (k.updatedAt c).instant ∧
      (k.updatedAt c).instant ≤ (k.updatedAt a).instant

/-- One of the calls created it, at the time of that call. -/
def BornIn (m : Memory) (calls : List (Timestamp × Call)) (a : α) : Prop :=
  ∃ earlier now c later b, calls = earlier ++ (now, c) :: later ∧
    k.created? ⟨c, ((m.after earlier).exec now c).1⟩ = some b ∧ k.createdAt b = now ∧
    k.updatedAt b = now ∧ k.Becomes b (((m.after earlier).exec now c).2.history later) a

structure Timely (m : Memory) : Prop where
  call : ∀ now c, k.Follows m now ⟨c, (m.exec now c).1⟩ (m.exec now c).2
  calls : ∀ calls a, k.Holds (m.after calls) a →
    (∃ b, k.Holds m b ∧ k.Becomes b (m.history calls) a) ∨ k.BornIn m calls a

end Kind

end Bulletin
