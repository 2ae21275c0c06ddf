import Bulletin.Service.Reported
import Bulletin.Sql.Received
import Bulletin.Sql.Sent

namespace Bulletin

open Sql

namespace Sql

def Sent.userRows : Sent → List UserRow
  | ⟨.listUsers, .ok (rows : List UserRow)⟩ => rows
  | ⟨.fetchUser _, .ok (rows : List UserRow)⟩ => rows
  | ⟨.insertUser .., .ok (rows : List UserRow)⟩ => rows
  | ⟨.updateUser .., .ok (rows : List UserRow)⟩ => rows
  | _ => []

/-- The rows of the posts that the response is to show. Of one post this is the first row, and a
post that is looked for only to be changed is not to be shown as it was. -/
def Sent.postRows (action : Action) : Sent → List PostRow
  | ⟨.listPosts, .ok (rows : List PostRow)⟩ => rows
  | ⟨.listUserPosts _, .ok (rows : List PostRow)⟩ => rows
  | ⟨.fetchPost _, .ok (rows : List PostRow)⟩ =>
    if action = .retrieve then rows.head?.toList else []
  | ⟨.insertPost .., .ok (rows : List PostRow)⟩ => rows.head?.toList
  | ⟨.updatePost .., .ok (rows : List PostRow)⟩ => rows.head?.toList
  | _ => []

namespace PostRow

def AuthorNamed (log : List Sent) (row : PostRow) (name : String) : Prop :=
  ∃ n, row.userId = some n ∧ ∃ x ∈ log, ∃ author ∈ x.userRows,
    author.userId = some n ∧ author.firstName = some name

structure Shown (log : List Sent) (row : PostRow) (view : PostView) : Prop where
  carried : row.Carries view.post
  named : row.AuthorNamed log view.authorName

end PostRow

end Sql

def Request.ShowsPosts (request : Request) (action : Action) : Prop :=
  ∃ resource exchange, request.action? = some (resource, action) ∧
    Action.views? resource action = some exchange ∧ exchange.output = some .post

inductive Response.Presents (r : Response) : List PostView → Prop
  | one {view} : view.write? = some r.body → r.Presents [view]
  | all {views} : writeList? PostView.write? views = some r.body → r.Presents views

/-- Every post in the response is a row that was received, with the name of its own author. If the
author of some row was not received, nothing is shown. -/
structure Response.Attributes (action : Action) (log : List Sent) (r : Response) : Prop where
  shown : r.status = .ok ∨ r.status = .created → ∃ views, r.Presents views ∧
    List.Forall₂ (PostRow.Shown log) (log.flatMap (·.postRows action)) views
  withheld : ∀ row ∈ log.flatMap (·.postRows action), (∀ name, ¬ row.AuthorNamed log name) →
    r = .internalFault

end Bulletin
