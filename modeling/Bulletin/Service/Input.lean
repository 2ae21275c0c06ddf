import Bulletin.Service.Respond

namespace Bulletin

def Route.action? : Route → Verb → Option (Resource × Action)
  | .users, .get => some (.users, .list)
  | .users, .post => some (.users, .create)
  | .user _, .get => some (.users, .retrieve)
  | .user _, .put => some (.users, .update)
  | .user _, .patch => some (.users, .partialUpdate)
  | .user _, .delete => some (.users, .destroy)
  | .userPosts _, .get => some (.users, .userPosts)
  | .posts, .get => some (.posts, .list)
  | .posts, .post => some (.posts, .create)
  | .post _, .get => some (.posts, .retrieve)
  | .post _, .put => some (.posts, .update)
  | .post _, .patch => some (.posts, .partialUpdate)
  | .post _, .delete => some (.posts, .destroy)
  | _, _ => none

def Intent.action : Intent → Action
  | .create => .create
  | .replace => .update
  | .patch => .partialUpdate

def Request.action? (request : Request) : Option (Resource × Action) := do
  (← Route.ofPath? request.uri.path).action? (← Verb.ofMethod? request.method)

def Request.input? (request : Request) : Option View := do
  let (resource, action) ← request.action?
  (← Action.views? resource action).input

def Json.Members.under (members : Members) (names : List String) : List (Option Token) :=
  names.map fun name => (members.get? name).map token

end Bulletin
