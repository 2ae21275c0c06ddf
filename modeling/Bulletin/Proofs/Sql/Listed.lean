import Bulletin.Sql.Database

namespace Bulletin.Sql

structure Listed where
  users : List StoredUser := []
  posts : List StoredPost := []
  lastUser : Nat := 0
  lastPost : Nat := 0

def Constraint.refusal : Constraint → Refusal
  | .email => ⟨"23505", "duplicate key value violates unique constraint", Constraint.email.name⟩
  | .author => ⟨"23503", "insert or update violates foreign key constraint", Constraint.author.name⟩

namespace Listed

variable {α β : Type}

def tables (t : Listed) : Tables := ⟨t.users, t.posts, t.lastUser, t.lastPost⟩

def commit (t next : Listed) (answer : α) : Except Refusal α × Listed :=
  if (next.users.map (·.email)).Nodup then
    if ∀ post ∈ next.posts, ∃ user ∈ next.users, user.userId = post.userId then (.ok answer, next)
    else (.error Constraint.author.refusal, t)
  else (.error Constraint.email.refusal, t)

theorem commits_commit {t next : Listed} {aim : Tables} (h : next.tables = aim) (answer : α) :
    Commits t.tables aim answer (t.commit next answer).1 (t.commit next answer).2.tables := by
  subst h
  unfold commit
  split
  case isFalse hemails => exact .refused (c := .email) hemails rfl
  case isTrue hemails =>
    split
    case isFalse hauthors => exact .refused (c := .author) hauthors rfl
    case isTrue hauthors =>
      apply Commits.done
      intro c
      cases c with
      | email => exact hemails
      | author => exact hauthors

def sort (key : α → Int64) (rows : List α) : List α := rows.mergeSort fun a b => key a ≤ key b

theorem selectsBy_sort (key : α → Int64) (rows : List α) (row : α → β) :
    SelectsBy key rows row (.ok ((sort key rows).map row)) := by
  refine ⟨sort key rows, Multiset.coe_eq_coe.2 (List.mergeSort_perm rows _), ?_, rfl⟩
  have hsorted : (sort key rows).Pairwise fun a b => decide (key a ≤ key b) := by
    apply List.pairwise_mergeSort
    · intro a b c hab hbc
      simp only [decide_eq_true_eq] at hab hbc ⊢
      exact Int64.le_trans hab hbc
    · intro a b
      simp [Int64.le_total]
  exact hsorted.imp fun h => by simpa using h

def answer (now : Int64) : (s : Statement) → Listed → s.Reply × Listed
  | .listUsers, t => (.ok ((sort StoredUser.userId t.users).map StoredUser.row), t)
  | .fetchUser id, t => (.ok ((t.users.filter (·.userId = id)).map StoredUser.row), t)
  | .insertUser email firstName lastName isActive, t =>
    let new : StoredUser :=
      ⟨.ofNat (t.lastUser + 1), email, firstName, lastName, isActive, now, now⟩
    t.commit { t with users := new :: t.users, lastUser := t.lastUser + 1 } [new.row]
  | .updateUser id email firstName lastName isActive, t =>
    let update := StoredUser.update now email firstName lastName isActive
    t.commit { t with users := t.users.map fun u => if u.userId = id then update u else u }
      (((t.users.filter (·.userId = id)).map update).map StoredUser.row)
  | .deleteUser id, t =>
    t.commit { t with
      users := t.users.filter (·.userId ≠ id), posts := t.posts.filter (·.userId ≠ id) }
      (t.users.filter (·.userId = id)).length
  | .userExists id, t => (.ok [some (t.users.any (·.userId = id))], t)
  | .listPosts, t => (.ok ((sort StoredPost.postId t.posts).map StoredPost.row), t)
  | .fetchPost id, t => (.ok ((t.posts.filter (·.postId = id)).map StoredPost.row), t)
  | .listUserPosts id, t =>
    (.ok ((sort StoredPost.postId (t.posts.filter (·.userId = id))).map StoredPost.row), t)
  | .insertPost title content userId published, t =>
    let new : StoredPost := ⟨.ofNat (t.lastPost + 1), title, content, userId, published, now, now⟩
    t.commit { t with posts := new :: t.posts, lastPost := t.lastPost + 1 } [new.row]
  | .updatePost id title content userId published, t =>
    let update := StoredPost.update now title content userId published
    t.commit { t with posts := t.posts.map fun p => if p.postId = id then update p else p }
      (((t.posts.filter (·.postId = id)).map update).map StoredPost.row)
  | .deletePost id, t =>
    t.commit { t with posts := t.posts.filter (·.postId ≠ id) }
      (t.posts.filter (·.postId = id)).length

theorem meaning (now : Int64) (s : Statement) (t : Listed) :
    s.Meaning now t.tables (answer now s t).1 (answer now s t).2.tables := by
  cases s with
  | listUsers => exact ⟨rfl, selectsBy_sort _ _ _⟩
  | fetchUser id => exact ⟨rfl, _, rfl, rfl⟩
  | userExists id => exact ⟨rfl, _, by simp [tables], rfl⟩
  | listPosts => exact ⟨rfl, selectsBy_sort _ _ _⟩
  | fetchPost id => exact ⟨rfl, _, rfl, rfl⟩
  | listUserPosts id => exact ⟨rfl, selectsBy_sort _ _ _⟩
  | insertUser | insertPost =>
    intro _
    apply commits_commit
    rfl
  | updateUser | updatePost =>
    refine ⟨_, rfl, ?_⟩
    apply commits_commit
    rfl
  | deleteUser | deletePost =>
    apply commits_commit
    rfl

def database : Database := ⟨Listed, tables, answer, meaning⟩

end Listed

end Bulletin.Sql
