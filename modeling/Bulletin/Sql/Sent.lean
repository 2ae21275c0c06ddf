import Bulletin.Sql.Client

namespace Bulletin.Sql

abbrev Sent := (s : Statement) × s.Reply

namespace Client

variable {α σ : Type} (reply : (s : Statement) → σ → s.Reply × σ) (state : σ)

def sent (program : StoreProgram α) : List Sent := (overDatabase program).record reply state

def outcome (program : StoreProgram α) : α := ((overDatabase program).run reply state).1

def sentFor (c : Call) : List Sent := (perform c).run.record reply state

/-- The statements that there are for a call. What comes behind the first of them is sent only if
the first reply asks for it. -/
def statements : Call → List Statement
  | .listUsers => [.listUsers]
  | .fetchUser id => [.fetchUser id.toRow]
  | .createUser new => [.insertUser new.email.text new.firstName new.lastName new.isActive]
  | .updateUser id changes =>
    [.updateUser id.toRow (changes.email.map (·.text)) changes.firstName changes.lastName
      changes.isActive]
  | .deleteUser id => [.deleteUser id.toRow]
  | .listPosts => [.listPosts]
  | .fetchPost id => [.fetchPost id.toRow]
  | .fetchUserPosts id => [.userExists id.toRow, .listUserPosts id.toRow]
  | .createPost new => [.insertPost new.title new.content new.author.toRow new.published]
  | .updatePost id changes =>
    [.updatePost id.toRow changes.title changes.content (changes.author.map (·.toRow))
      changes.published]
  | .deletePost id => [.deletePost id.toRow]

end Client

def UserRow.isReadable (r : UserRow) : Bool :=
  (r.decode.toOption.bind fun record => record.toUser.toOption).isSome

def PostRow.isReadable (r : PostRow) : Bool := r.decode.toOption.isSome

namespace Statement

def texts : List String :=
  [listUsers, fetchUser 0, insertUser "" "" "" false, updateUser 0 none none none none,
    deleteUser 0, userExists 0, listPosts, fetchPost 0, listUserPosts 0, insertPost "" "" 0 false,
    updatePost 0 none none none none, deletePost 0].map text

/-- Whether an answer can be decoded as far as it is looked at: where one row is asked for, the
others are not. -/
def reads : (s : Statement) → s.Answer → Bool
  | .listUsers, (rows : List UserRow) => rows.all UserRow.isReadable
  | .fetchUser _, (rows : List UserRow) => rows.head?.all UserRow.isReadable
  | .insertUser .., (rows : List UserRow) => rows.head?.any UserRow.isReadable
  | .updateUser .., (rows : List UserRow) => rows.head?.all UserRow.isReadable
  | .userExists _, (rows : List (Option Bool)) => rows.head?.any Option.isSome
  | .listPosts, (rows : List PostRow) => rows.all PostRow.isReadable
  | .fetchPost _, (rows : List PostRow) => rows.head?.all PostRow.isReadable
  | .listUserPosts _, (rows : List PostRow) => rows.all PostRow.isReadable
  | .insertPost .., (rows : List PostRow) => rows.head?.any PostRow.isReadable
  | .updatePost .., (rows : List PostRow) => rows.head?.all PostRow.isReadable
  | .deleteUser _, _ => true
  | .deletePost _, _ => true

def affects : (s : Statement) → s.Answer → Bool
  | .insertUser .., (rows : List UserRow) => !rows.isEmpty
  | .updateUser .., (rows : List UserRow) => !rows.isEmpty
  | .insertPost .., (rows : List PostRow) => !rows.isEmpty
  | .updatePost .., (rows : List PostRow) => !rows.isEmpty
  | .deleteUser _, (count : Nat) => 0 < count
  | .deletePost _, (count : Nat) => 0 < count
  | _, _ => false

end Statement

namespace Sent

def failed : Sent → Bool
  | ⟨_, .error _⟩ => true
  | ⟨s, .ok answer⟩ => !s.reads answer

def wrote : Sent → Bool
  | ⟨_, .error _⟩ => false
  | ⟨s, .ok answer⟩ => s.affects answer

end Sent

/-- Only fixed texts are sent, at most one of them to write, and nothing after a failure. -/
structure Orderly (log : List Sent) : Prop where
  fixed : ∀ x ∈ log, x.1.text ∈ Statement.texts
  oneWrite : log.countP (·.1.isWrite) ≤ 1
  stops : ∀ before x after, log = before ++ x :: after → x.failed → after = []

end Bulletin.Sql
