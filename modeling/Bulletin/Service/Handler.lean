import Bulletin.Service.Error
import Bulletin.Store.Call

namespace Bulletin

abbrev Handler (α : Type) := ExceptT ServiceError (Dialogue Call Call.Reply) α

namespace Handler

def call (c : Call) : Handler c.Result :=
  ExceptT.mk ((Dialogue.question c).bind fun reply => .done (reply.mapError .ofStore))

def found (error : ServiceError) : Option α → Handler α
  | some a => pure a
  | none => throw error

def parse (form : Form α) (mode : Intent) (payload : Json.Members) : Handler α :=
  ExceptT.mk (.done ((form.parse mode payload).mapError .validation))

def respond (status : Status) : Option Bytes → Handler Response
  | some body => pure (.json status body)
  | none => throw (.unwritable Rfc3339.unwritable)

def fetchUser (id : UserId) : Handler (Option User) := call (.fetchUser id)

def fetchPost (id : PostId) : Handler (Option Post) := call (.fetchPost id)

def resolveAuthor (author : UserId) : Handler User := do
  found (.unknownAuthor author) (← fetchUser author)

def view (post : Post) (author : Option User) : Handler PostView :=
  ExceptT.mk (.done ((PostView.render post author).mapError .orphan))

def viewPost (post : Post) : Handler PostView := do
  view post (← fetchUser post.author)

abbrev Known := List (UserId × Option User)

def learn (known : Known) (author : UserId) : Handler Known :=
  match known.lookup author with
  | some _ => pure known
  | none => do return (author, ← fetchUser author) :: known

/-- Shows posts in order and looks each author up once. -/
def viewPosts (known : Known) : List Post → Handler (List PostView)
  | [] => pure []
  | post :: posts => do
    let known ← learn known post.author
    let shown ← view post (known.lookup post.author).join
    return shown :: (← viewPosts known posts)

def listUsers : Handler Response := do
  let users : List User ← call .listUsers
  respond .ok (writeList? User.write? users)

def createUser (payload : Json.Members) : Handler Response := do
  let user : User ← call (.createUser (← parse .newUser .create payload))
  respond .created user.write?

def getUser (id : UserId) : Handler Response := do
  let user ← found (.userNotFound id) (← fetchUser id)
  respond .ok user.write?

def updateUser (mode : Intent) (id : UserId) (payload : Json.Members) : Handler Response := do
  discard (found (.userNotFound id) (← fetchUser id))
  let changes ← parse .userChanges mode payload
  let user : User ← found (.userNotFound id) (← call (.updateUser id changes))
  respond .ok user.write?

def deleteUser (id : UserId) : Handler Response := do
  let deleted : Bool ← call (.deleteUser id)
  if deleted then return { status := .noContent } else throw (.userNotFound id)

def listUserPosts (id : UserId) : Handler Response := do
  let posts ← found (.userNotFound id) (← call (.fetchUserPosts id) : Option (List Post))
  respond .ok (writeList? PostView.write? (← viewPosts [] posts))

def listPosts : Handler Response := do
  let posts : List Post ← call .listPosts
  respond .ok (writeList? PostView.write? (← viewPosts [] posts))

def createPost (payload : Json.Members) : Handler Response := do
  let new ← parse .newPost .create payload
  let author ← resolveAuthor new.author
  let post : Post ← call (.createPost new)
  respond .created (← view post (some author)).write?

def getPost (id : PostId) : Handler Response := do
  let post ← found (.postNotFound id) (← fetchPost id)
  respond .ok (← viewPost post).write?

def updatePost (mode : Intent) (id : PostId) (payload : Json.Members) : Handler Response := do
  discard (found (.postNotFound id) (← fetchPost id))
  let changes ← parse .postChanges mode payload
  match changes.author with
  | some author => discard (resolveAuthor author)
  | none => pure ()
  let post : Post ← found (.postNotFound id) (← call (.updatePost id changes))
  respond .ok (← viewPost post).write?

def deletePost (id : PostId) : Handler Response := do
  let deleted : Bool ← call (.deletePost id)
  if deleted then return { status := .noContent } else throw (.postNotFound id)

end Handler

end Bulletin
