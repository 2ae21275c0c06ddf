import Bulletin.Service.ReadBack

namespace Bulletin

structure Catalogue where
  users : List (User × Bytes)
  posts : List (PostView × Bytes)

namespace Catalogue

def user? (c : Catalogue) (id : UserId) : Option (User × Bytes) := c.users.find? (·.1.id = id)

def post? (c : Catalogue) (id : PostId) : Option (PostView × Bytes) :=
  c.posts.find? (·.1.post.id = id)

def postsBy (c : Catalogue) (id : UserId) : List (PostView × Bytes) :=
  c.posts.filter (·.1.post.author = id)

def page (items : List (α × Bytes)) : Response :=
  .json .ok (Json.Write.list (items.map (·.2)))

def entry (missing : ServiceError) : Option (α × Bytes) → Response
  | some item => .json .ok item.2
  | none => .ofError missing

/-- Users and posts are in the order of their ids, and shown as they are. Each post is listed under
one user, its author, and has that user's first name. -/
structure Coherent (c : Catalogue) : Prop where
  usersAscend : c.users.Pairwise fun a b => a.1.id.number < b.1.id.number
  postsAscend : c.posts.Pairwise fun a b => a.1.post.id.number < b.1.post.id.number
  usersWritten : ∀ item ∈ c.users, item.1.write? = some item.2
  postsWritten : ∀ item ∈ c.posts, item.1.write? = some item.2
  listed : ∀ item ∈ c.posts, ∀ id,
    (c.user? id).isSome ∧ item.2 ∈ (c.postsBy id).map (·.2) ↔ id = item.1.post.author
  named : ∀ item ∈ c.posts,
    ∃ author ∈ c.user? item.1.post.author, item.1.authorName = author.1.firstName

end Catalogue

def Request.WritesPost (request : Request) : Prop :=
  request.method ∈ ["POST", "PUT", "PATCH"] ∧
    (Route.ofPath? request.uri.path = some .posts ∨
      ∃ segment, Route.ofPath? request.uri.path = some (.post segment))

/-- Whoever asks is shown what is in the catalogue. -/
structure Memory.Presents (m : Memory) (c : Catalogue) : Prop where
  users : ∀ now request, Request.method request = "GET" →
    Route.ofPath? request.uri.path = some .users →
      (m.answer now request).1 = Catalogue.page c.users
  user : ∀ now request id, Request.method request = "GET" → request.LeadsTo .user id →
    (m.answer now request).1 = Catalogue.entry (.userNotFound id) (c.user? id)
  userPosts : ∀ now request id, Request.method request = "GET" → request.LeadsTo .userPosts id →
    (m.answer now request).1 =
      if (c.user? id).isSome then Catalogue.page (c.postsBy id) else .ofError (.userNotFound id)
  posts : ∀ now request, Request.method request = "GET" →
    Route.ofPath? request.uri.path = some .posts →
      (m.answer now request).1 = Catalogue.page c.posts
  post : ∀ now request id, Request.method request = "GET" → request.LeadsTo .post id →
    (m.answer now request).1 = Catalogue.entry (.postNotFound id) (c.post? id)

end Bulletin
