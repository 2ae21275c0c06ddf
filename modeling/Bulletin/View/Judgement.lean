import Bulletin.View.Form

namespace Bulletin

open Json (Scalar)

inductive Verdict (α : Type) where
  | absent
  | offends (message : String)
  | reads (a : α)

namespace Verdict

def offence? : Verdict α → Option String
  | .offends message => some message
  | _ => none

def value? : Verdict α → Option α
  | .reads a => some a
  | _ => none

end Verdict

structure Field (α : Type) where
  name : String
  scalar : Scalar α
  hasDefault : Bool := false
  check : α → Except String α := .ok

namespace Field

def ofValue (field : Field α) : Json → Verdict α
  | .null => .offends "This field may not be null."
  | value => match field.scalar.ofJson value with
    | .error cause => .offends cause.message
    | .ok a => match field.check a with
      | .error message => .offends message
      | .ok a => .reads a

def judge (field : Field α) (mode : Intent) (payload : Json.Members) : Verdict α :=
  match payload.get? field.name with
  | none =>
    if field.hasDefault ∨ mode = .patch then .absent else .offends "This field is required."
  | some value => field.ofValue value

def text (name : String) (max : Option Nat) : Field String where
  name
  scalar := Scalar.text
  check s :=
    let trimmed := Text.trim s
    if trimmed = "" then .error "This field may not be blank."
    else match max.filter (· < trimmed.length) with
      | some max => .error ("Ensure this field has no more than " ++ toString max ++ " characters.")
      | none => .ok trimmed

def email : Field Email := { name := "email", scalar := Email.scalar }

def firstName : Field String := text "first_name" (some 150)

def lastName : Field String := text "last_name" (some 150)

def isActive : Field Bool := { name := "is_active", scalar := Scalar.flag, hasDefault := true }

def title : Field String := text "title" (some 200)

def content : Field String := text "content" none

def author : Field UserId := { name := "author", scalar := Id.scalar }

def published : Field Bool := { name := "published", scalar := Scalar.flag, hasDefault := true }

end Field

def offences (fields : List (String × Option String)) : List (String × List String) :=
  fields.filterMap fun (name, offence?) => offence?.map fun message => (name, [message])

section Payload

variable (mode : Intent) (payload : Json.Members)

def Field.offence (field : Field α) : String × Option String :=
  (field.name, (field.judge mode payload).offence?)

def Field.value? (field : Field α) : Option α := (field.judge mode payload).value?

def userOffences : List (String × List String) :=
  offences [Field.email.offence mode payload, Field.firstName.offence mode payload,
    Field.isActive.offence mode payload, Field.lastName.offence mode payload]

def postOffences : List (String × List String) :=
  offences [Field.author.offence mode payload, Field.content.offence mode payload,
    Field.published.offence mode payload, Field.title.offence mode payload]

/-- A patch may leave out what a new user or post cannot do without. -/
def Lacks (names : List String) : Prop :=
  mode = .patch ∧ ∃ name ∈ names, payload.get? name = none

end Payload

/-- What comes of a payload: all of its offences, or the value, unless something is missing. -/
structure Judged (result : Except FieldErrors α) (offences : List (String × List String))
    (missing : Prop) (value? : Option α) : Prop where
  offended : offences ≠ [] → result = .error ⟨offences⟩
  incomplete : offences = [] → missing →
    result = .error ⟨[("non_field_errors", ["Invalid data."])]⟩
  accepted : offences = [] → ¬ missing → ∃ a, value? = some a ∧ result = .ok a

end Bulletin
