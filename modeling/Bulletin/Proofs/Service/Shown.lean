import Bulletin.Proofs.Service.Eval

namespace Bulletin

def Memory.shown (m : Memory) (post : Post) : PostView :=
  ⟨post, ((m.users.get? post.author).map User.firstName).getD ""⟩

namespace Handler

variable {now : Timestamp} {m : Memory}

theorem render_some {post : Post} {author : User} (hid : author.id = post.author) :
    PostView.render post (some author) = .ok ⟨post, author.firstName⟩ := by
  simp [PostView.render, Option.filter, hid]

theorem post_of_render {post : Post} {author : Option User} {shown : PostView}
    (h : PostView.render post author = .ok shown) : shown.post = post := by
  unfold PostView.render at h
  split at h <;> cases h
  rfl

theorem on_view_some {post : Post} {author : User} (hid : author.id = post.author) :
    (view post (some author)).on now m = (.ok ⟨post, author.firstName⟩, m) := by
  rw [on_view, render_some hid]
  rfl

theorem render_eq (hm : m.Linked) {post : Post} (hauthor : m.users.contains post.author) :
    PostView.render post (m.users.get? post.author) = .ok (m.shown post) := by
  cases hget : m.users.get? post.author with
  | none => simp [Table.contains, hget] at hauthor
  | some author =>
    simp [render_some (hm.users.get?_eq_some_iff.1 hget).2, Memory.shown, hget]

theorem on_viewPost (hm : m.Linked) {post : Post} (hauthor : m.users.contains post.author) :
    (viewPost post).on now m = (.ok (m.shown post), m) := by
  simp [viewPost, on_bind, render_eq hm hauthor, Except.mapError]

def Known.Of (m : Memory) (known : Known) : Prop :=
  ∀ author user, known.lookup author = some user → user = m.users.get? author

theorem on_learn (now : Timestamp) {known : Known} (hknown : known.Of m) (author : UserId) :
    ∃ known' : Known, (learn known author).on now m = (.ok known', m) ∧ known'.Of m ∧
      known'.lookup author = some (m.users.get? author) := by
  unfold learn
  split
  case h_1 user hlookup =>
    exact ⟨known, rfl, hknown, by rw [hlookup, hknown author user hlookup]⟩
  case h_2 =>
    refine ⟨_, rfl, ?_, by simp⟩
    intro other user hlookup
    rw [List.lookup_cons] at hlookup
    split at hlookup
    case h_1 heq => rw [← Option.some.inj hlookup, eq_of_beq heq]
    case h_2 => exact hknown other user hlookup

theorem on_viewPosts (hm : m.Linked) {posts : List Post}
    (hauthors : ∀ post ∈ posts, m.users.contains post.author) {known : Known}
    (hknown : known.Of m) : (viewPosts known posts).on now m = (.ok (posts.map m.shown), m) := by
  induction posts generalizing known with
  | nil => rfl
  | cons post posts ih =>
    obtain ⟨known', hlearn, hknown', hlookup⟩ := on_learn now hknown post.author
    have hrest := ih (fun post hpost => hauthors post (List.mem_cons_of_mem _ hpost)) hknown'
    have hfirst := render_eq hm (hauthors post List.mem_cons_self)
    simp [viewPosts, on_bind, hlearn, hlookup, hfirst, hrest, Except.mapError, -bind_pure_comp]

end Handler

end Bulletin
