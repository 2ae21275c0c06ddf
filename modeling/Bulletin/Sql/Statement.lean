import Bulletin.Sql.Row

namespace Bulletin.Sql

inductive Statement where
  | listUsers
  | fetchUser (id : Int64)
  | insertUser (email firstName lastName : String) (isActive : Bool)
  | updateUser (id : Int64) (email firstName lastName : Option String) (isActive : Option Bool)
  | deleteUser (id : Int64)
  | userExists (id : Int64)
  | listPosts
  | fetchPost (id : Int64)
  | listUserPosts (id : Int64)
  | insertPost (title content : String) (userId : Int64) (published : Bool)
  | updatePost (id : Int64) (title content : Option String) (userId : Option Int64)
      (published : Option Bool)
  | deletePost (id : Int64)
  deriving DecidableEq

inductive Param where
  | null
  | integer (n : Int64)
  | text (s : String)
  | flag (b : Bool)
  deriving DecidableEq

def userColumns : String :=
  "user_id, email, first_name, last_name, is_active, created_at, updated_at"

def postColumns : String :=
  "post_id, title, content, user_id, published, created_at, updated_at"

namespace Statement

def text : Statement → String
  | .listUsers => "SELECT " ++ userColumns ++ " FROM users.users ORDER BY user_id"
  | .fetchUser _ => "SELECT " ++ userColumns ++ " FROM users.users WHERE user_id = $1"
  | .insertUser .. =>
    "INSERT INTO users.users (email, first_name, last_name, is_active) "
      ++ "VALUES ($1, $2, $3, $4) RETURNING " ++ userColumns
  | .updateUser .. =>
    "UPDATE users.users SET email = COALESCE($2, email), first_name = COALESCE($3, first_name), "
      ++ "last_name = COALESCE($4, last_name), is_active = COALESCE($5, is_active), "
      ++ "updated_at = GREATEST(now(), updated_at + interval '1 microsecond') "
      ++ "WHERE user_id = $1 RETURNING " ++ userColumns
  | .deleteUser _ => "DELETE FROM users.users WHERE user_id = $1"
  | .userExists _ => "SELECT EXISTS (SELECT 1 FROM users.users WHERE user_id = $1)"
  | .listPosts => "SELECT " ++ postColumns ++ " FROM posts.posts ORDER BY post_id"
  | .fetchPost _ => "SELECT " ++ postColumns ++ " FROM posts.posts WHERE post_id = $1"
  | .listUserPosts _ =>
    "SELECT " ++ postColumns ++ " FROM posts.posts WHERE user_id = $1 ORDER BY post_id"
  | .insertPost .. =>
    "INSERT INTO posts.posts (title, content, user_id, published) "
      ++ "VALUES ($1, $2, $3, $4) RETURNING " ++ postColumns
  | .updatePost .. =>
    "UPDATE posts.posts SET title = COALESCE($2, title), content = COALESCE($3, content), "
      ++ "user_id = COALESCE($4, user_id), published = COALESCE($5, published), "
      ++ "updated_at = GREATEST(now(), updated_at + interval '1 microsecond') "
      ++ "WHERE post_id = $1 RETURNING " ++ postColumns
  | .deletePost _ => "DELETE FROM posts.posts WHERE post_id = $1"

def orNull (f : α → Param) : Option α → Param
  | some a => f a
  | none => .null

def params : Statement → List Param
  | .listUsers | .listPosts => []
  | .fetchUser id | .deleteUser id | .userExists id => [.integer id]
  | .fetchPost id | .listUserPosts id | .deletePost id => [.integer id]
  | .insertUser email firstName lastName isActive =>
    [.text email, .text firstName, .text lastName, .flag isActive]
  | .updateUser id email firstName lastName isActive =>
    [.integer id, orNull .text email, orNull .text firstName, orNull .text lastName,
      orNull .flag isActive]
  | .insertPost title content userId published =>
    [.text title, .text content, .integer userId, .flag published]
  | .updatePost id title content userId published =>
    [.integer id, orNull .text title, orNull .text content, orNull .integer userId,
      orNull .flag published]

def Answer : Statement → Type
  | .listUsers | .fetchUser _ | .insertUser .. | .updateUser .. => List UserRow
  | .listPosts | .fetchPost _ | .listUserPosts _ | .insertPost .. | .updatePost .. => List PostRow
  | .userExists _ => List (Option Bool)
  | .deleteUser _ | .deletePost _ => Nat

abbrev Reply (s : Statement) : Type := Except Refusal s.Answer

def isWrite : Statement → Bool
  | .insertUser .. | .updateUser .. | .deleteUser _ => true
  | .insertPost .. | .updatePost .. | .deletePost _ => true
  | _ => false

end Statement

end Bulletin.Sql
