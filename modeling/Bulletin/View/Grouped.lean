import Bulletin.View.Taking

namespace Bulletin.FieldErrors

def precedes (a b : String × String) : Bool := utf8 a.1 ≤ utf8 b.1

/-- The messages sorted by their fields. Those of one field stay in the order of the log. -/
def sorted (log : List (String × String)) : List (String × String) := log.mergeSort precedes

structure Grouped (log : List (String × String)) (errors : FieldErrors) : Prop where
  field : ∀ field, errors.field? field = listed? log field
  ascending : errors.fields.Pairwise fun a b => utf8 a < utf8 b
  used : ∀ field, field ∈ errors.fields ↔ ∃ message, (field, message) ∈ log
  message : errors.message =
    "; ".intercalate ((sorted log).map fun (field, message) => field ++ ": " ++ message)
  written : errors.write = Json.Write.object (errors.fields.map fun field =>
    (field, Json.Write.list (((listed? log field).getD []).map Json.Write.text)))
  decoded : ∃ members, Json.readObject errors.write = .ok members ∧
    members.map (·.1) = errors.fields ∧
    ∀ field, members.get? field =
      (listed? log field).map fun messages => .sequence (messages.map .text)
  isEmpty : errors.isEmpty ↔ log = []
  nonempty : ∀ field, errors.field? field ≠ some []

end Bulletin.FieldErrors
