import Bulletin.Model.Email
import Bulletin.Model.Id
import Bulletin.Time.Timestamp

namespace Bulletin

def nameMaxLength : Nat := 150

structure User where
  id : UserId
  email : Email
  firstName : String
  lastName : String
  isActive : Bool
  createdAt : Timestamp
  updatedAt : Timestamp
  deriving DecidableEq

structure NewUser where
  email : Email
  firstName : String
  lastName : String
  isActive : Bool
  deriving DecidableEq

/-- What to overwrite; `none` keeps the stored value. -/
structure UserChanges where
  email : Option Email := none
  firstName : Option String := none
  lastName : Option String := none
  isActive : Option Bool := none
  deriving DecidableEq

def NewUser.toUser (new : NewUser) (id : UserId) (now : Timestamp) : User where
  id
  email := new.email
  firstName := new.firstName
  lastName := new.lastName
  isActive := new.isActive
  createdAt := now
  updatedAt := now

def UserChanges.applyTo (changes : UserChanges) (user : User) : User :=
  { user with
    email := changes.email.getD user.email
    firstName := changes.firstName.getD user.firstName
    lastName := changes.lastName.getD user.lastName
    isActive := changes.isActive.getD user.isActive }

def UserChanges.revise (changes : UserChanges) (now : Timestamp) (user : User) : User :=
  { changes.applyTo user with updatedAt := user.updatedAt.after now }

end Bulletin
