import Bulletin.View.Wire

namespace Bulletin

open Json (Scalar Member Record)

namespace Email

/-- A local part and a domain around an `@`, the domain with a dot inside, and no white space. -/
def WellFormed (s : String) : Prop :=
  ∃ name domain suffix : String, s = name ++ "@" ++ domain ++ "." ++ suffix ∧
    name ≠ "" ∧ domain ≠ "" ∧ suffix ≠ "" ∧
    domain.toList.head? ≠ some '.' ∧ suffix.toList.getLast? ≠ some '.' ∧
    (∀ part ∈ [name, domain, suffix], '@' ∉ part.toList) ∧
    ∀ c ∈ s.toList, Text.isBlank c = false

structure Keeps (s : String) (e : Email) : Prop where
  short : s.length ≤ 254
  wellFormed : WellFormed s
  text : e.text = s

structure Classified (s : String) : Prop where
  tooLong : ∀ t, ofText s = .error (.tooLong t) ↔ 254 < s.length ∧ t = s
  accepted : ∀ e, ofText s = .ok e ↔ Keeps s e
  malformed : ∀ t, ofText s = .error (.malformed t) ↔ s.length ≤ 254 ∧ ¬ WellFormed s ∧ t = s

end Email

structure PlainUser where
  id : UserId
  email : String
  firstName : String
  lastName : String
  isActive : Bool
  createdAt : Timestamp
  updatedAt : Timestamp

def User.toPlain (u : User) : PlainUser where
  id := u.id
  email := u.email.text
  firstName := u.firstName
  lastName := u.lastName
  isActive := u.isActive
  createdAt := u.createdAt
  updatedAt := u.updatedAt

namespace PlainUser

structure Draft where
  id : Option UserId := none
  email : Option String := none
  firstName : Option String := none
  lastName : Option String := none
  isActive : Option Bool := none
  createdAt : Option Timestamp := none
  updatedAt : Option Timestamp := none

def Draft.finish (d : Draft) : Except String PlainUser := do
  return {
    id := ← need "id" d.id
    email := ← need "email" d.email
    firstName := ← need "first_name" d.firstName
    lastName := ← need "last_name" d.lastName
    isActive := ← need "is_active" d.isActive
    createdAt := ← need "created_at" d.createdAt
    updatedAt := ← need "updated_at" d.updatedAt }

def record : Record Draft PlainUser where
  name := "struct UserView"
  members := [
    .of "id" Id.scalar Draft.id fun a d => { d with id := a },
    .of "email" Scalar.text Draft.email fun a d => { d with email := a },
    .of "first_name" Scalar.text Draft.firstName fun a d => { d with firstName := a },
    .of "last_name" Scalar.text Draft.lastName fun a d => { d with lastName := a },
    .of "is_active" Scalar.flag Draft.isActive fun a d => { d with isActive := a },
    .of "created_at" Timestamp.scalar Draft.createdAt fun a d => { d with createdAt := a },
    .of "updated_at" Timestamp.scalar Draft.updatedAt fun a d => { d with updatedAt := a }]
  blank := {}
  finish := Draft.finish

end PlainUser

structure Email.ReadAlike : Prop where
  written : ∀ s : String, Json.read (Json.Write.text s) = .ok (.text s)
  decoded : ∀ text e, Email.scalar.decode text = .ok e ↔
    ∃ s, Json.read text = .ok (.text s) ∧ Keeps s e
  inView : ∀ text user, User.record.decode text = .ok user ↔
    ∃ plain, PlainUser.record.decode text = .ok plain ∧ Keeps plain.email user.email ∧
      user.toPlain = plain
  inPayload : ∀ name, ∀ reading ∈ [PayloadReader.required Email.scalar name,
      PayloadReader.optional Email.scalar name],
    ∀ (r : PayloadReader) (e : Email), (reading.run r).1 = some e ↔
      ∃ s, r.fields.get? name = some (.text s) ∧ Keeps s e

end Bulletin
