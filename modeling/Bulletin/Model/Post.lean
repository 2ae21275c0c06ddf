import Bulletin.Model.Id
import Bulletin.Time.Timestamp

namespace Bulletin

def titleMaxLength : Nat := 200

structure Post where
  id : PostId
  title : String
  content : String
  author : UserId
  published : Bool
  createdAt : Timestamp
  updatedAt : Timestamp
  deriving DecidableEq

structure NewPost where
  title : String
  content : String
  author : UserId
  published : Bool
  deriving DecidableEq

structure PostChanges where
  title : Option String := none
  content : Option String := none
  author : Option UserId := none
  published : Option Bool := none
  deriving DecidableEq

def NewPost.toPost (new : NewPost) (id : PostId) (now : Timestamp) : Post where
  id
  title := new.title
  content := new.content
  author := new.author
  published := new.published
  createdAt := now
  updatedAt := now

def PostChanges.applyTo (changes : PostChanges) (post : Post) : Post :=
  { post with
    title := changes.title.getD post.title
    content := changes.content.getD post.content
    author := changes.author.getD post.author
    published := changes.published.getD post.published }

def PostChanges.revise (changes : PostChanges) (now : Timestamp) (post : Post) : Post :=
  { changes.applyTo post with updatedAt := post.updatedAt.after now }

end Bulletin
