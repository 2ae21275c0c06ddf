import Bulletin.Service.Respond
import Bulletin.Store.Turns

namespace Bulletin

def Service.together (requests : List Request) (schedule : List (Nat × Timestamp)) :
    Round Response :=
  Round.play { programs := requests.map Service.respond } schedule

def Route.showsStoredPosts : Route → Option Verb → Bool
  | .posts, some .get | .userPosts _, some .get | .post _, some .get | .post _, some .put
  | .post _, some .patch => true
  | _, _ => false

def Request.showsStoredPosts (request : Request) : Bool :=
  (Route.ofPath? request.uri.path).any (·.showsStoredPosts (Verb.ofMethod? request.method))

/-- A request has found a post. Then its author is deleted, and only then does the request look the
author up. -/
def Overtaken (i : Nat) (d : Orphan) (turns : List Turn) : Prop :=
  ∃ before found between lookup later,
    turns = before ++ found :: between ++ lookup :: later ∧
    found.program = i ∧ lookup.program = i ∧ lookup.call = .fetchUser d.author ∧
    (∃ post ∈ (Turn.store (before ++ [found])).posts.values,
      post.id = d.post ∧ post.author = d.author) ∧
    ∃ deletion ∈ between, deletion.call = .deleteUser d.author

end Bulletin
