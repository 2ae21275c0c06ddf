import Bulletin.Service.ReadBack
import Bulletin.View.Union

namespace Bulletin

variable {entity : Entity}

/-- The request changes what is under an id by a payload. -/
structure Request.Changes (route : String → Route) (id : Id entity) (method : String)
    (payload : Json.Members) (request : Request) : Prop where
  method : request.method = method
  leadsTo : request.LeadsTo route id
  payload : Service.payload request = .ok payload

/-- At any reading of the clock that gives a time that can be shown, the request succeeds and leaves
`left` with this time of the last change, which was `before`. -/
def Memory.Leaves (m : Memory) (request : Request) (before : Timestamp)
    (left : Timestamp → Memory) : Prop :=
  ∀ now, (before.after now).write?.isSome →
    (m.answer now request).1.status = .ok ∧ (m.answer now request).2 = left (before.after now)

end Bulletin
