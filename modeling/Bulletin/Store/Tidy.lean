import Bulletin.Store.Memory

namespace Bulletin

structure Text.Tidy (max : Option Nat) (s : String) : Prop where
  nonempty : s ≠ ""
  start : ∀ c ∈ s.toList.head?, isBlank c = false
  finish : ∀ c ∈ s.toList.getLast?, isBlank c = false
  length : ∀ most ∈ max, s.length ≤ most

structure User.Tidy (user : User) : Prop where
  email : Email.ofText user.email.text = .ok user.email
  firstName : Text.Tidy (some 150) user.firstName
  lastName : Text.Tidy (some 150) user.lastName

structure Post.Tidy (post : Post) : Prop where
  title : Text.Tidy (some 200) post.title
  content : Text.Tidy none post.content

structure Memory.Tidy (m : Memory) : Prop where
  users : ∀ user ∈ m.users.values, user.Tidy
  posts : ∀ post ∈ m.posts.values, post.Tidy

def Call.Tidy : Call → Prop
  | .createUser new =>
    Text.Tidy (some 150) new.firstName ∧ Text.Tidy (some 150) new.lastName
  | .updateUser _ changes =>
    (∀ s ∈ changes.firstName, Text.Tidy (some 150) s) ∧
      ∀ s ∈ changes.lastName, Text.Tidy (some 150) s
  | .createPost new => Text.Tidy (some 200) new.title ∧ Text.Tidy none new.content
  | .updatePost _ changes =>
    (∀ s ∈ changes.title, Text.Tidy (some 200) s) ∧ ∀ s ∈ changes.content, Text.Tidy none s
  | _ => True

end Bulletin
