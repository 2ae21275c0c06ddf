import Bulletin.Http.Message
import Bulletin.Text.Split

/-!
The table of routes: which paths there are, and which methods each of them serves.

| Path                | Methods                  |
|---------------------|--------------------------|
| `/users`            | GET, POST                |
| `/users/{id}`       | GET, PUT, PATCH, DELETE  |
| `/users/{id}/posts` | GET                      |
| `/posts`            | GET, POST                |
| `/posts/{id}`       | GET, PUT, PATCH, DELETE  |

A request for HEAD is served as one for GET. Only between two slashes may the id be empty.
-/

namespace Bulletin

inductive Route where
  | users
  | user (segment : String)
  | userPosts (segment : String)
  | posts
  | post (segment : String)
  deriving DecidableEq, Repr

inductive Verb where
  | get | post | put | patch | delete
  deriving DecidableEq, Repr

namespace Route

def ofPath? (path : String) : Option Route :=
  match (Text.split (· = '/') path.toList).map String.ofList with
  | ["", "users"] => some .users
  | ["", "users", id] => if id.isEmpty then none else some (.user id)
  | ["", "users", id, "posts"] => some (.userPosts id)
  | ["", "posts"] => some .posts
  | ["", "posts", id] => if id.isEmpty then none else some (.post id)
  | _ => none

def verbs : Route → List Verb
  | .users | .posts => [.get, .post]
  | .user _ | .post _ => [.get, .put, .patch, .delete]
  | .userPosts _ => [.get]

end Route

namespace Verb

def methods : Verb → List String
  | .get => ["GET", "HEAD"]
  | .post => ["POST"]
  | .put => ["PUT"]
  | .patch => ["PATCH"]
  | .delete => ["DELETE"]

def ofMethod? (method : String) : Option Verb :=
  [Verb.get, .post, .put, .patch, .delete].find? (·.methods.contains method)

end Verb

def Route.allow (r : Route) : String := ",".intercalate (r.verbs.flatMap Verb.methods)

end Bulletin
