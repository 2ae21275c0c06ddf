import Bulletin.Service.Session
import Bulletin.Store.History
import Bulletin.View.Given

namespace Bulletin

variable {entity : Entity}

def Request.LeadsTo (route : String → Route) (id : Id entity) (request : Request) : Prop :=
  ∃ segment, Route.ofPath? request.uri.path = some (route segment) ∧
    Service.idOfSegment segment = .ok id

namespace Memory

def traffic (m : Memory) : List (Timestamp × Request) → List (Timestamp × Call)
  | [] => []
  | (now, request) :: requests =>
    asked now (Service.respond request) m ++ (m.answer now request).2.traffic requests

/-- The body shows the user, and whoever asks for the user gets it. -/
structure ShowsUser (m : Memory) (user : User) (body : Bytes) : Prop where
  written : user.write? = some body
  answered : ∀ now request, Request.method request = "GET" → request.LeadsTo .user user.id →
    (m.answer now request).1 = .json .ok body

structure ShowsPost (m : Memory) (view : PostView) (body : Bytes) : Prop where
  written : view.write? = some body
  answered : ∀ now request, Request.method request = "GET" → request.LeadsTo .post view.post.id →
    (m.answer now request).1 = .json .ok body

end Memory

/-- What a request with a payload reports that has led from one store to the next. -/
inductive ReadBack (earlier : History) (m : Memory) (request : Request) (payload : Json.Members)
    (m' : Memory) : Response → Prop
  | newUser {user : User} {body : Bytes} :
    Route.ofPath? request.uri.path = some .users → m'.ShowsUser user body →
    user.Given payload → user.Complete payload → user.createdAt = user.updatedAt →
    user.id.Fresh (earlier.createdUsers.map User.id) →
    ReadBack earlier m request payload m' (.json .created body)
  | changedUser {old user : User} {oldBody body : Bytes} :
    request.LeadsTo .user old.id → m.ShowsUser old oldBody → m'.ShowsUser user body →
    user.Given payload → user.Kept payload old →
    ReadBack earlier m request payload m' (.json .ok body)
  | newPost {view : PostView} {body : Bytes} :
    Route.ofPath? request.uri.path = some .posts → m'.ShowsPost view body →
    view.post.Given payload → view.post.Complete payload →
    view.post.createdAt = view.post.updatedAt →
    view.post.id.Fresh (earlier.createdPosts.map Post.id) →
    ReadBack earlier m request payload m' (.json .created body)
  | changedPost {old view : PostView} {oldBody body : Bytes} :
    request.LeadsTo .post old.post.id → m.ShowsPost old oldBody → m'.ShowsPost view body →
    view.post.Given payload → view.post.Kept payload old.post →
    ReadBack earlier m request payload m' (.json .ok body)

/-- After `get` was answered, `put` brings the body of the answer back to the same place. -/
structure Request.SendsBack (get : Request) (answer : Response) (put : Request) : Prop where
  asked : get.method = "GET"
  method : put.method = "PUT" ∨ put.method = "PATCH"
  uri : put.uri = get.uri
  contentType : put.contentType.any (MediaType.announcesJson <| utf8 ·)
  body : put.body = answer.body
  length : put.body.length ≤ Service.maxBodyLength

namespace Memory

def withUser (m : Memory) (user : User) : Memory :=
  { m with users := m.users.replace user.id user }

def withPost (m : Memory) (post : Post) : Memory :=
  { m with posts := m.posts.replace post.id post }

end Memory

end Bulletin
