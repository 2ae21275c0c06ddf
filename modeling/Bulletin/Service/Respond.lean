import Bulletin.Http.MediaType
import Bulletin.Json.Document
import Bulletin.Service.Handler
import Bulletin.Service.Route
import Bulletin.Text.Percent

/-!
The service: from a request to a program over a store that ends in the response. The path is
judged first, then the body, and only then is the store asked.
-/

namespace Bulletin.Service

def maxBodyLength : Nat := 2097152

def idOfSegment {entity : Entity} (segment : String) : Except PathFault (Id entity) :=
  match ofUtf8? (Percent.decode (utf8 segment)) with
  | none => .error .notText
  | some s => match Id.ofText? s with
    | some id => .ok id
    | none => .error (.notNumber s)

def payload (request : Request) : Except BodyFault Json.Members :=
  if !request.contentType.any (MediaType.announcesJson <| utf8 ·) then .error .mediaType
  else if maxBodyLength < request.body.length then .error .tooLong
  else (Json.readObject request.body).mapError .refused

def withId {entity : Entity} (segment : String) (handler : Id entity → Handler α) : Handler α :=
  match idOfSegment segment with
  | .ok id => handler id
  | .error fault => throw (.path fault)

def withPayload (request : Request) (handler : Json.Members → Handler α) : Handler α :=
  match payload request with
  | .ok members => handler members
  | .error fault => throw (.body fault)

def notAllowed (route : Route) : Response :=
  { status := .methodNotAllowed, allow := some route.allow }

def serve (request : Request) : Route → Option Verb → Handler Response
  | .users, some .get => Handler.listUsers
  | .users, some .post => withPayload request Handler.createUser
  | .user s, some .get => withId s Handler.getUser
  | .user s, some .put => withId s fun id => withPayload request (Handler.updateUser .replace id)
  | .user s, some .patch => withId s fun id => withPayload request (Handler.updateUser .patch id)
  | .user s, some .delete => withId s Handler.deleteUser
  | .userPosts s, some .get => withId s Handler.listUserPosts
  | .posts, some .get => Handler.listPosts
  | .posts, some .post => withPayload request Handler.createPost
  | .post s, some .get => withId s Handler.getPost
  | .post s, some .put => withId s fun id => withPayload request (Handler.updatePost .replace id)
  | .post s, some .patch => withId s fun id => withPayload request (Handler.updatePost .patch id)
  | .post s, some .delete => withId s Handler.deletePost
  | route, _ => pure (notAllowed route)

def handle (request : Request) : Handler Response :=
  match Route.ofPath? request.uri.path with
  | some route => serve request route (Verb.ofMethod? request.method)
  | none => throw (.unknownRoute request.uri)

def ofOutcome : Except ServiceError Response → Response
  | .ok response => response
  | .error e => .ofError e

def trimmed (request : Request) (response : Response) : Response :=
  if request.method = "HEAD" then { response with body := [] } else response

def respond (request : Request) : StoreProgram Response :=
  (handle request).run.bind fun outcome => .done (trimmed request (ofOutcome outcome))

end Bulletin.Service
