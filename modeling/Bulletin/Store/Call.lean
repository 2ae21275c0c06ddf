import Bulletin.Dialogue
import Bulletin.Model.Post
import Bulletin.Model.User
import Bulletin.Store.Error

/-!
The calls that every store answers.

Stores give out ids in the order of creation, stamp the times of every write, keep emails unique,
refuse posts whose author does not exist, and delete a user together with the user's posts.
-/

namespace Bulletin

inductive Call where
  | listUsers
  | fetchUser (id : UserId)
  | createUser (new : NewUser)
  | updateUser (id : UserId) (changes : UserChanges)
  | deleteUser (id : UserId)
  | listPosts
  | fetchPost (id : PostId)
  | fetchUserPosts (id : UserId)
  | createPost (new : NewPost)
  | updatePost (id : PostId) (changes : PostChanges)
  | deletePost (id : PostId)
  deriving DecidableEq

namespace Call

/-- Where something may be missing, `none` and `false` say that it is. -/
def Result : Call → Type
  | .listUsers => List User
  | .fetchUser _ => Option User
  | .createUser _ => User
  | .updateUser _ _ => Option User
  | .deleteUser _ => Bool
  | .listPosts => List Post
  | .fetchPost _ => Option Post
  | .fetchUserPosts _ => Option (List Post)
  | .createPost _ => Post
  | .updatePost _ _ => Option Post
  | .deletePost _ => Bool

abbrev Reply (c : Call) : Type := Except StoreError c.Result

end Call

abbrev StoreProgram (α : Type) := Dialogue Call Call.Reply α

end Bulletin
