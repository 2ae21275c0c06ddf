import Bulletin.View.PayloadReader

namespace Bulletin

namespace FieldErrors

def ofLog (log : List (String × String)) : FieldErrors :=
  log.foldl (fun errors (field, message) => errors.add field message) empty

def listed? (log : List (String × String)) (field : String) : Option (List String) :=
  match (log.filter (·.1 = field)).map (·.2) with
  | [] => none
  | messages => some messages

end FieldErrors

inductive Take : Type → Type 1 where
  | required {α : Type} (decode : Json → Except String α) (name : String) : Take α
  | optional {α : Type} (decode : Json → Except String α) (name : String) : Take α
  | text (name : String) (max : Option Nat) : Take String

namespace Take

variable {α : Type}

def name : Take α → String
  | required _ name | optional _ name | text name _ => name

def reading : Take α → PayloadReader.Reading (Option α)
  | required decode name => PayloadReader.requiredBy decode name
  | optional decode name => PayloadReader.optionalBy decode name
  | text name max => PayloadReader.text name max

def MayLack (mode : Intent) : Take α → Prop
  | optional .. => True
  | required .. | text .. => mode = .patch

def reads : Take α → Json → Option α
  | _, .null => none
  | required decode _, value | optional decode _, value => (decode value).toOption
  | text _ max, .text s => (PayloadReader.checkText max s).toOption
  | text _ _, _ => none

end Take

abbrev Takes := List ((α : Type) × Take α)

def Takes.names (calls : Takes) : List String := calls.map (·.2.name)

namespace PayloadReader

def after (r : PayloadReader) : Takes → PayloadReader
  | [] => r
  | ⟨_, t⟩ :: calls => (t.reading.run r).2.after calls

/-- A call has the value that it makes of the field it sees, or notes one message under its name,
but that it notes nothing of a field that is missing and that it may do without. -/
structure Fair {α : Type} (r : PayloadReader) (t : Take α) : Prop where
  value : (t.reading.run r).1 = (r.fields.get? t.name).bind t.reads
  accepts : (t.reading.run r).1 ≠ none → (t.reading.run r).2.errors = r.errors
  excuses : r.fields.get? t.name = none → t.MayLack r.mode →
    (t.reading.run r).2.errors = r.errors
  notes : (t.reading.run r).1 = none → ¬ (r.fields.get? t.name = none ∧ t.MayLack r.mode) →
    ∃ message, (t.reading.run r).2.errors = r.errors.add t.name message

inductive Notes : PayloadReader → Takes → List (String × String) → Prop
  | nil {r : PayloadReader} : Notes r [] []
  | silent {r : PayloadReader} {α : Type} {t : Take α} {calls : Takes}
    {log : List (String × String)} : (t.reading.run r).2.errors = r.errors →
    Notes (t.reading.run r).2 calls log → Notes r (⟨α, t⟩ :: calls) log
  | note {r : PayloadReader} {α : Type} {t : Take α} {calls : Takes}
    {log : List (String × String)} {message : String} :
    (t.reading.run r).2.errors = r.errors.add t.name message →
    Notes (t.reading.run r).2 calls log →
    Notes r (⟨α, t⟩ :: calls) ((t.name, message) :: log)

structure Concludes (r : PayloadReader) (log : List (String × String)) : Prop where
  value : ∀ (α : Type) (a b : α), conclude (some a) r = .ok b ↔ log = [] ∧ b = a
  never : ∀ (α : Type) (a : α), conclude none r ≠ .ok a
  nonempty : ∀ (α : Type) (parsed : Option α) (errors : FieldErrors),
    conclude parsed r = .error errors → errors.isEmpty = false
  listed : ∀ (α : Type) (parsed : Option α) (errors : FieldErrors), log ≠ [] →
    conclude parsed r = .error errors → ∀ field, errors.field? field = FieldErrors.listed? log field
  single : ∀ (α : Type) (parsed : Option α) (errors : FieldErrors), log = [] →
    conclude parsed r = .error errors → errors = .single "non_field_errors" "Invalid data."

structure Heard (view : View) (mode : Intent) (payload : Json.Members) (calls : Takes) : Prop where
  sees : ∀ name value, ((ofPayload view mode payload).after calls).fields.get? name = some value ↔
    name ∈ view.writable ∧ payload.get? name = some value ∧ name ∉ calls.names
  sameMode : ((ofPayload view mode payload).after calls).mode = mode
  fair : ∀ (α : Type) (t : Take α), ((ofPayload view mode payload).after calls).Fair t
  notes : ∃ log, (ofPayload view mode payload).Notes calls log
  concludes : ∀ log, (ofPayload view mode payload).Notes calls log →
    ((ofPayload view mode payload).after calls).Concludes log

end PayloadReader

end Bulletin
