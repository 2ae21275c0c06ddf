import Mathlib.Algebra.Group.Nat.Defs
import Bulletin.Store.Memory

/-!
Histories: the calls that a store in memory was asked one after another, with its replies, and what
they say by themselves about the users and posts that there are in the end.
-/

namespace Bulletin

structure Event where
  call : Call
  reply : call.Reply

namespace Event

def wrote : Event → Bool
  | ⟨.createUser _, .ok _⟩ | ⟨.updateUser _ _, .ok (some _)⟩ | ⟨.deleteUser _, .ok true⟩
  | ⟨.createPost _, .ok _⟩ | ⟨.updatePost _ _, .ok (some _)⟩ | ⟨.deletePost _, .ok true⟩ => true
  | _ => false

def createdUser? : Event → Option User
  | ⟨.createUser _, .ok user⟩ => some user
  | _ => none

def createdPost? : Event → Option Post
  | ⟨.createPost _, .ok post⟩ => some post
  | _ => none

def onUser (user : User) : Event → Option User
  | ⟨.updateUser id changes, .ok (some _)⟩ =>
    some (if id = user.id then changes.applyTo user else user)
  | ⟨.deleteUser id, .ok true⟩ => if id = user.id then none else some user
  | _ => some user

/-- What an event leaves of a post. A user takes along the posts that name the user by then. -/
def onPost (post : Post) : Event → Option Post
  | ⟨.updatePost id changes, .ok (some _)⟩ =>
    some (if id = post.id then changes.applyTo post else post)
  | ⟨.deletePost id, .ok true⟩ => if id = post.id then none else some post
  | ⟨.deleteUser id, .ok true⟩ => if id = post.author then none else some post
  | _ => some post

end Event

abbrev History := List Event

namespace History

def createdUsers (h : History) : List User := h.filterMap Event.createdUser?

def createdPosts (h : History) : List Post := h.filterMap Event.createdPost?

/-- What was created and not taken away again, in the order of creation, as later events left it. -/
def remaining (created? : Event → Option α) (on : α → Event → Option α) : History → List α
  | [] => []
  | e :: later => ((created? e).bind (later.foldlM on)).toList ++ remaining created? on later

def users : History → List User := remaining Event.createdUser? Event.onUser

def posts : History → List Post := remaining Event.createdPost? Event.onPost

end History

def Id.Fresh {entity : Entity} (earlier : List (Id entity)) (id : Id entity) : Prop :=
  earlier.length + 1 < 2 ^ 64 → ∀ other ∈ earlier, other.number < id.number

namespace Memory

def after (m : Memory) : List (Timestamp × Call) → Memory
  | [] => m
  | (now, c) :: calls => (m.exec now c).2.after calls

def history (m : Memory) : List (Timestamp × Call) → History
  | [] => []
  | (now, c) :: calls => ⟨c, (m.exec now c).1⟩ :: (m.exec now c).2.history calls

def asked (now : Timestamp) : StoreProgram α → Memory → List (Timestamp × Call)
  | .done _, _ => []
  | .ask c next, m => (now, c) :: asked now (next (m.exec now c).1) (m.exec now c).2

end Memory

/-- Programs over one store make calls, any of them the next one at any time. -/
inductive Interleaved {α : Type} : List (StoreProgram α) → Memory → List (Timestamp × Call) →
    List (StoreProgram α) → Memory → Prop
  | refl {programs m} : Interleaved programs m [] programs m
  | ask {programs programs' m m' c next calls} (i : Nat) (now : Timestamp) :
    programs[i]? = some (.ask c next) →
    Interleaved (programs.set i (next (m.exec now c).1)) (m.exec now c).2 calls programs' m' →
    Interleaved programs m ((now, c) :: calls) programs' m'

end Bulletin
