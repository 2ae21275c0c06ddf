import Bulletin.Json.Scalar
import Bulletin.Text.Blank
import Bulletin.View.FieldErrors
import Bulletin.View.Table

/-!
Takes typed fields out of a payload, one after another. Only the writable fields of a view are
seen, each of them once, and every problem is noted so that one answer names all of them.
-/

namespace Bulletin

inductive Intent where
  | create | replace | patch
  deriving DecidableEq, Repr

structure PayloadReader where
  mode : Intent
  fields : Json.Members
  errors : FieldErrors

namespace PayloadReader

open Json (Scalar)

abbrev Reading (α : Type) := StateM PayloadReader α

def wholePayload : String := "non_field_errors"

def ofPayload (view : View) (mode : Intent) (payload : Json.Members) : PayloadReader where
  mode
  fields := payload.filter fun (name, _) => view.writable.contains name
  errors := .empty

def note (name message : String) : Reading Unit :=
  modify fun r => { r with errors := r.errors.add name message }

def take (name : String) : Reading (Option Json) :=
  modifyGet fun r => (r.fields.get? name, { r with fields := r.fields.filter (·.1 ≠ name) })

def refuse (name message : String) : Reading (Option α) := do
  note name message
  return none

def optionalBy (decode : Json → Except String α) (name : String) : Reading (Option α) := do
  match ← take name with
  | none => return none
  | some .null => refuse name "This field may not be null."
  | some value => match decode value with
    | .ok a => return some a
    | .error message => refuse name message

def requiredBy (decode : Json → Except String α) (name : String) : Reading (Option α) := do
  let r ← get
  if (r.fields.get? name).isNone ∧ r.mode ≠ .patch then note name "This field is required."
  optionalBy decode name

def decoder (scalar : Scalar α) (value : Json) : Except String α :=
  (scalar.ofJson value).mapError (·.message)

def optional (scalar : Scalar α) (name : String) : Reading (Option α) :=
  optionalBy (decoder scalar) name

def required (scalar : Scalar α) (name : String) : Reading (Option α) :=
  requiredBy (decoder scalar) name

def checkText (max : Option Nat) (s : String) : Except String String :=
  let s := Text.trim s
  if s.isEmpty then .error "This field may not be blank."
  else match max with
    | some max =>
      if max < s.length then
        .error ("Ensure this field has no more than " ++ toString max ++ " characters.")
      else .ok s
    | none => .ok s

def text (name : String) (max : Option Nat) : Reading (Option String) := do
  match ← required Scalar.text name with
  | none => return none
  | some s => match checkText max s with
    | .ok s => return some s
    | .error message => refuse name message

def conclude (parsed : Option α) (r : PayloadReader) : Except FieldErrors α :=
  if r.errors.isEmpty then
    match parsed with
    | some a => .ok a
    | none => .error (.single wholePayload "Invalid data.")
  else .error r.errors

end PayloadReader

end Bulletin
