import Bulletin.Json.Value
import Bulletin.Model.Post
import Bulletin.Model.User

namespace Bulletin

/-- `both` has the members of `later`, and those of `earlier` that `later` does not have. -/
def Json.Members.Union (earlier later both : Members) : Prop :=
  ∀ name, both.get? name = (later.get? name).or (earlier.get? name)

def UserChanges.orElse (later earlier : UserChanges) : UserChanges where
  email := later.email.or earlier.email
  firstName := later.firstName.or earlier.firstName
  lastName := later.lastName.or earlier.lastName
  isActive := later.isActive.or earlier.isActive

def PostChanges.orElse (later earlier : PostChanges) : PostChanges where
  title := later.title.or earlier.title
  content := later.content.or earlier.content
  author := later.author.or earlier.author
  published := later.published.or earlier.published

def User.dated (user : User) (time : Timestamp) : User := { user with updatedAt := time }

def Post.dated (post : Post) (time : Timestamp) : Post := { post with updatedAt := time }

end Bulletin
