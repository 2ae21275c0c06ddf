import Bulletin.Service.Handler

namespace Bulletin

/-- What looking up a user comes to. It may be another user than was asked for. -/
abbrev Lookup := UserId → Except StoreError (Option User)

namespace Lookup

variable (lookup : Lookup)

def AnsweredBy {σ : Type} (step : (c : Call) → σ → c.Reply × σ) : Prop :=
  ∀ id s, (step (.fetchUser id) s).1 = lookup id

def view (post : Post) : Except ServiceError PostView := do
  (PostView.render post (← (lookup post.author).mapError .ofStore)).mapError .orphan

/-- The posts up to the first one that cannot be shown, which is among them. -/
def tried (posts : List Post) : List Post :=
  posts.take (posts.findIdx (fun post => !(lookup.view post).isOk) + 1)

def authors (posts : List Post) : List UserId := ((lookup.tried posts).map Post.author).eraseDups

def asked (id : UserId) : (c : Call) × c.Reply := ⟨.fetchUser id, lookup id⟩

end Lookup

end Bulletin
