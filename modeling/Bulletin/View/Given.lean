import Bulletin.Json.Value
import Bulletin.Model.Post
import Bulletin.Model.User

namespace Bulletin

structure User.Given (payload : Json.Members) (user : User) : Prop where
  email : ∀ value ∈ payload.get? "email", value = .text user.email.text
  firstName : ∀ value ∈ payload.get? "first_name",
    ∃ s, value = .text s ∧ user.firstName = Text.trim s
  lastName : ∀ value ∈ payload.get? "last_name", ∃ s, value = .text s ∧ user.lastName = Text.trim s
  isActive : ∀ value ∈ payload.get? "is_active", value = .flag user.isActive

structure User.Complete (payload : Json.Members) (user : User) : Prop where
  email : payload.get? "email" ≠ none
  firstName : payload.get? "first_name" ≠ none
  lastName : payload.get? "last_name" ≠ none
  isActive : payload.get? "is_active" = none → user.isActive = true

structure User.Kept (payload : Json.Members) (user old : User) : Prop where
  id : user.id = old.id
  createdAt : user.createdAt = old.createdAt
  email : payload.get? "email" = none → user.email = old.email
  firstName : payload.get? "first_name" = none → user.firstName = old.firstName
  lastName : payload.get? "last_name" = none → user.lastName = old.lastName
  isActive : payload.get? "is_active" = none → user.isActive = old.isActive

structure Post.Given (payload : Json.Members) (post : Post) : Prop where
  title : ∀ value ∈ payload.get? "title", ∃ s, value = .text s ∧ post.title = Text.trim s
  content : ∀ value ∈ payload.get? "content", ∃ s, value = .text s ∧ post.content = Text.trim s
  author : ∀ value ∈ payload.get? "author", value = .number (.natural post.author.number)
  published : ∀ value ∈ payload.get? "published", value = .flag post.published

structure Post.Complete (payload : Json.Members) (post : Post) : Prop where
  title : payload.get? "title" ≠ none
  content : payload.get? "content" ≠ none
  author : payload.get? "author" ≠ none
  published : payload.get? "published" = none → post.published = false

structure Post.Kept (payload : Json.Members) (post old : Post) : Prop where
  id : post.id = old.id
  createdAt : post.createdAt = old.createdAt
  title : payload.get? "title" = none → post.title = old.title
  content : payload.get? "content" = none → post.content = old.content
  author : payload.get? "author" = none → post.author = old.author
  published : payload.get? "published" = none → post.published = old.published

end Bulletin
