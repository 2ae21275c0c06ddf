import Bulletin.Sql.Statement
import Bulletin.Store.Call

/-!
The store in a database: which statements a call sends, and what it makes of the replies. A call
stops at the first reply that is a refusal or cannot be decoded.
-/

namespace Bulletin.Sql

abbrev Session (α : Type) := ExceptT StoreError (Dialogue Statement Statement.Reply) α

namespace Client

def emailKey : String := "users_email_key"

def authorKey : String := "posts_user_id_fkey"

/-- Sends a statement; a refusal is an error of the database unless it is a conflict. -/
def sendOr (conflict : Refusal → Option StoreError) (s : Statement) : Session s.Answer :=
  ExceptT.mk ((Dialogue.question s).bind fun reply =>
    .done (reply.mapError fun r => (conflict r).getD (.database (.refused r))))

def send (s : Statement) : Session s.Answer := sendOr (fun _ => none) s

def onKey (key : String) (conflict : Option StoreError) (r : Refusal) : Option StoreError :=
  if r.constraint = some key then conflict else none

def lift (r : Except DatabaseError α) : Session α := ExceptT.mk (.done (r.mapError .database))

def toUser (r : UserRecord) : Session User := ExceptT.mk (.done (r.toUser.mapError .data))

def one : List α → Session α
  | row :: _ => pure row
  | [] => throw (.database .noRow)

def readUser (row : UserRow) : Session User := do toUser (← lift row.decode)

def readPost (row : PostRow) : Session Post := do return (← lift row.decode).toPost

def readUser? (rows : List UserRow) : Session (Option User) := rows.head?.mapM readUser

def readPost? (rows : List PostRow) : Session (Option Post) := rows.head?.mapM readPost

/-- All rows are decoded before any of them is judged as a user. -/
def listUsers : Session (List User) := do
  let rows : List UserRow ← send .listUsers
  (← lift (rows.mapM UserRow.decode)).mapM toUser

def fetchUser (id : UserId) : Session (Option User) := do
  readUser? (← send (.fetchUser id.toRow) : List UserRow)

def createUser (new : NewUser) : Session User := do
  let s := Statement.insertUser new.email.text new.firstName new.lastName new.isActive
  let rows : List UserRow ← sendOr (onKey emailKey (some (.emailTaken new.email))) s
  readUser (← one rows)

def updateUser (id : UserId) (changes : UserChanges) : Session (Option User) := do
  let s := Statement.updateUser id.toRow (changes.email.map (·.text)) changes.firstName
    changes.lastName changes.isActive
  let rows : List UserRow ← sendOr (onKey emailKey (changes.email.map .emailTaken)) s
  readUser? rows

def deleteUser (id : UserId) : Session Bool := do
  let count : Nat ← send (.deleteUser id.toRow)
  return 0 < count

def listPosts : Session (List Post) := do
  let rows : List PostRow ← send .listPosts
  return (← lift (rows.mapM PostRow.decode)).map PostRecord.toPost

def fetchPost (id : PostId) : Session (Option Post) := do
  readPost? (← send (.fetchPost id.toRow) : List PostRow)

def userExists (id : UserId) : Session Bool := do
  let rows : List (Option Bool) ← send (.userExists id.toRow)
  match ← one rows with
  | some found => return found
  | none => throw (.database (.unexpectedNull (.numbered 0)))

def fetchUserPosts (id : UserId) : Session (Option (List Post)) := do
  if ← userExists id then
    let rows : List PostRow ← send (.listUserPosts id.toRow)
    return some ((← lift (rows.mapM PostRow.decode)).map PostRecord.toPost)
  else return none

def createPost (new : NewPost) : Session Post := do
  let s := Statement.insertPost new.title new.content new.author.toRow new.published
  let rows : List PostRow ← sendOr (onKey authorKey (some (.unknownAuthor new.author))) s
  readPost (← one rows)

def updatePost (id : PostId) (changes : PostChanges) : Session (Option Post) := do
  let s := Statement.updatePost id.toRow changes.title changes.content
    (changes.author.map (·.toRow)) changes.published
  let rows : List PostRow ← sendOr (onKey authorKey (changes.author.map .unknownAuthor)) s
  readPost? rows

def deletePost (id : PostId) : Session Bool := do
  let count : Nat ← send (.deletePost id.toRow)
  return 0 < count

def perform : (c : Call) → Session c.Result
  | .listUsers => listUsers
  | .fetchUser id => fetchUser id
  | .createUser new => createUser new
  | .updateUser id changes => updateUser id changes
  | .deleteUser id => deleteUser id
  | .listPosts => listPosts
  | .fetchPost id => fetchPost id
  | .fetchUserPosts id => fetchUserPosts id
  | .createPost new => createPost new
  | .updatePost id changes => updatePost id changes
  | .deletePost id => deletePost id

def overDatabase (program : StoreProgram α) : Dialogue Statement Statement.Reply α :=
  program.expand fun c => (perform c).run

end Client

end Bulletin.Sql
