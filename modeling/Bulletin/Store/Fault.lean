import Bulletin.Store.Memory

namespace Bulletin

inductive Fault where
  | absent
  | stranger (distance : UInt64)
  | error (e : StoreError)
  deriving DecidableEq

namespace Fault

def absence? : (c : Call) → Option c.Result
  | .listUsers => some ([] : List User)
  | .fetchUser _ => some (none : Option User)
  | .updateUser _ _ => some (none : Option User)
  | .deleteUser _ => some false
  | .listPosts => some ([] : List Post)
  | .fetchPost _ => some (none : Option Post)
  | .fetchUserPosts _ => some (none : Option (List Post))
  | .updatePost _ _ => some (none : Option Post)
  | .deletePost _ => some false
  | .createUser _ | .createPost _ => none

def stranger? (distance : UInt64) (m : Memory) : (c : Call) → Option c.Result
  | .fetchUser id => some ((m.users.get? id).map fun u => { u with id := ⟨u.id.number + distance⟩ })
  | _ => none

def reply? (m : Memory) (c : Call) : Fault → Option c.Reply
  | .absent => (absence? c).map .ok
  | .stranger distance => (stranger? distance m c).map .ok
  | .error e => some (.error e)

end Fault

namespace Memory

def execFaulty (faults : Call → Option Fault) (now : Timestamp) (c : Call) (m : Memory) :
    c.Reply × Memory :=
  match (faults c).bind (Fault.reply? m c) with
  | some reply => (reply, m)
  | none => m.exec now c

end Memory

end Bulletin
