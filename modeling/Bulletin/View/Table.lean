namespace Bulletin

/-- The view for creating posts is only ever read. -/
inductive View where
  | user | post | postCreate
  deriving DecidableEq, Repr

inductive Resource where
  | users | posts
  deriving DecidableEq, Repr

inductive Action where
  | list | create | retrieve | update | partialUpdate | destroy | userPosts
  deriving DecidableEq, Repr

namespace View

def readable : View → List String
  | .user => ["id", "email", "first_name", "last_name", "is_active", "created_at", "updated_at"]
  | .post =>
    ["id", "title", "content", "author", "author_name", "published", "created_at", "updated_at"]
  | .postCreate => []

def writable : View → List String
  | .user => ["email", "first_name", "last_name", "is_active"]
  | .post | .postCreate => ["title", "content", "author", "published"]

end View

structure Exchange where
  input : Option View
  output : Option View
  deriving DecidableEq, Repr

def Action.views? : Resource → Action → Option Exchange
  | _, .destroy => some ⟨none, none⟩
  | .users, .list | .users, .retrieve => some ⟨none, some .user⟩
  | .users, .create | .users, .update | .users, .partialUpdate => some ⟨some .user, some .user⟩
  | .users, .userPosts => some ⟨none, some .post⟩
  | .posts, .list | .posts, .retrieve => some ⟨none, some .post⟩
  | .posts, .create => some ⟨some .postCreate, some .post⟩
  | .posts, .update | .posts, .partialUpdate => some ⟨some .post, some .post⟩
  | .posts, .userPosts => none

end Bulletin
