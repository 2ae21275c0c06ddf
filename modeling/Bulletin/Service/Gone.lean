import Bulletin.Service.Catalogue

namespace Bulletin

def Request.ListsPosts (request : Request) : Prop :=
  request.method = "GET" ∧ (Route.ofPath? request.uri.path = some .posts ∨
    ∃ segment, Route.ofPath? request.uri.path = some (.userPosts segment))

namespace Memory

/-- No request finds the user or writes a post in its name, and no list shows it or a post of it. -/
structure WithoutUser (m : Memory) (id : UserId) : Prop where
  asked : ∀ now request, Request.method request ∈ ["GET", "HEAD", "DELETE"] →
    request.LeadsTo .user id → (m.answer now request).1.status = .notFound
  askedForPosts : ∀ now request, Request.method request ∈ ["GET", "HEAD"] →
    request.LeadsTo .userPosts id → (m.answer now request).1.status = .notFound
  changed : ∀ now request payload, Request.method request ∈ ["PUT", "PATCH"] →
    request.LeadsTo .user id → Service.payload request = .ok payload →
      (m.answer now request).1.status = .notFound
  named : ∀ now request payload, request.WritesPost → Service.payload request = .ok payload →
    payload.get? "author" = some (.number (.natural id.number)) →
      400 ≤ (m.answer now request).1.status.code
  users : ∀ now request, Request.method request = "GET" →
    Route.ofPath? request.uri.path = some .users → (m.answer now request).1.status = .ok →
      ∃ users, writeList? User.write? users = some (m.answer now request).1.body ∧
        ∀ user ∈ users, user.id ≠ id
  posts : ∀ now request, request.ListsPosts → (m.answer now request).1.status = .ok →
    ∃ views, writeList? PostView.write? views = some (m.answer now request).1.body ∧
      ∀ view ∈ views, view.post.author ≠ id

structure WithoutPost (m : Memory) (id : PostId) : Prop where
  asked : ∀ now request, Request.method request ∈ ["GET", "HEAD", "DELETE"] →
    request.LeadsTo .post id → (m.answer now request).1.status = .notFound
  changed : ∀ now request payload, Request.method request ∈ ["PUT", "PATCH"] →
    request.LeadsTo .post id → Service.payload request = .ok payload →
      (m.answer now request).1.status = .notFound
  posts : ∀ now request, request.ListsPosts → (m.answer now request).1.status = .ok →
    ∃ views, writeList? PostView.write? views = some (m.answer now request).1.body ∧
      ∀ view ∈ views, view.post.id ≠ id

end Memory

end Bulletin
