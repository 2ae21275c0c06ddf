import Bulletin.Service.Respond

/-!
Where a request ends up. The table of routes is read the other way round here: each route has its
path and its methods, each row its handler, and what comes to none of them has its response.
-/

namespace Bulletin

namespace Route

def path : Route → String
  | users => "/users"
  | user segment => "/users/" ++ segment
  | userPosts segment => "/users/" ++ segment ++ "/posts"
  | posts => "/posts"
  | post segment => "/posts/" ++ segment

def segment? : Route → Option String
  | users | posts => none
  | user segment | userPosts segment | post segment => some segment

/-- No slash is part of a segment, and only one between two slashes may be empty. -/
def Listed : Route → Prop
  | users | posts => True
  | user segment | post segment => segment ≠ "" ∧ '/' ∉ segment.toList
  | userPosts segment => '/' ∉ segment.toList

def methods : Route → List String
  | users | posts => ["GET", "HEAD", "POST"]
  | user _ | post _ => ["GET", "HEAD", "PUT", "PATCH", "DELETE"]
  | userPosts _ => ["GET", "HEAD"]

end Route

def Segment.Names (segment : String) (n : UInt64) : Prop :=
  ∃ s, Percent.decode (utf8 segment) = utf8 s ∧ Numeral.Denotes s n.toNat

def PathFault.Of (segment : String) : PathFault → Prop
  | notText => ∀ s, Percent.decode (utf8 segment) ≠ utf8 s
  | notNumber s => Percent.decode (utf8 segment) = utf8 s ∧
      ∀ n < UInt64.size, ¬ Numeral.Denotes s n

inductive Request.Row (request : Request) : Route → Verb → Handler Response → Prop
  | listUsers : Row request .users .get Handler.listUsers
  | createUser {payload} : Service.payload request = .ok payload →
    Row request .users .post (Handler.createUser payload)
  | getUser {s n} : Segment.Names s n → Row request (.user s) .get (Handler.getUser ⟨n⟩)
  | putUser {s n payload} : Segment.Names s n → Service.payload request = .ok payload →
    Row request (.user s) .put (Handler.updateUser .replace ⟨n⟩ payload)
  | patchUser {s n payload} : Segment.Names s n → Service.payload request = .ok payload →
    Row request (.user s) .patch (Handler.updateUser .patch ⟨n⟩ payload)
  | deleteUser {s n} : Segment.Names s n → Row request (.user s) .delete (Handler.deleteUser ⟨n⟩)
  | listUserPosts {s n} : Segment.Names s n →
    Row request (.userPosts s) .get (Handler.listUserPosts ⟨n⟩)
  | listPosts : Row request .posts .get Handler.listPosts
  | createPost {payload} : Service.payload request = .ok payload →
    Row request .posts .post (Handler.createPost payload)
  | getPost {s n} : Segment.Names s n → Row request (.post s) .get (Handler.getPost ⟨n⟩)
  | putPost {s n payload} : Segment.Names s n → Service.payload request = .ok payload →
    Row request (.post s) .put (Handler.updatePost .replace ⟨n⟩ payload)
  | patchPost {s n payload} : Segment.Names s n → Service.payload request = .ok payload →
    Row request (.post s) .patch (Handler.updatePost .patch ⟨n⟩ payload)
  | deletePost {s n} : Segment.Names s n → Row request (.post s) .delete (Handler.deletePost ⟨n⟩)

inductive Destination where
  | response (r : Response)
  | handler (h : Handler Response)

/-- Where a request ends up that has come to a route. -/
inductive Request.Reaches (request : Request) (route : Route) : Destination → Prop
  | notAllowed : request.method ∉ route.methods → request.Reaches route
      (.response { status := .methodNotAllowed, allow := some (",".intercalate route.methods) })
  | notFound {segment fault} : request.method ∈ route.methods → route.segment? = some segment →
    PathFault.Of segment fault → request.Reaches route (.response (.ofError (.path fault)))
  | refused {fault} : request.method ∈ route.methods → request.method ∈ ["POST", "PUT", "PATCH"] →
    (∀ segment ∈ route.segment?, ∃ n, Segment.Names segment n) →
    Service.payload request = .error fault →
    request.Reaches route (.response (.ofError (.body fault)))
  | served {verb h} : request.method ∈ verb.methods → request.Row route verb h →
    request.Reaches route (.handler h)

inductive Request.EndsAt (request : Request) : Destination → Prop
  | unknown : (∀ route : Route, route.Listed → request.uri.path ≠ route.path) →
    request.EndsAt (.response (.ofError (.unknownRoute request.uri)))
  | known {route destination} : route.Listed → request.uri.path = route.path →
    request.Reaches route destination → request.EndsAt destination

def Destination.program (request : Request) : Destination → StoreProgram Response
  | response r => .done (Service.trimmed request r)
  | handler h =>
    h.run.bind fun outcome => .done (Service.trimmed request (Service.ofOutcome outcome))

end Bulletin
