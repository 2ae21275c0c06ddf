import Bulletin.Dialogue
import Bulletin.Store.Error

namespace Bulletin.Sql

structure Migration where
  version : Int
  script : String
  deriving DecidableEq, Repr

structure Applied where
  version : Int
  unchanged : Bool
  success : Bool
  deriving DecidableEq, Repr

namespace Migration

def usersAndPosts : Migration where
  version := 20251024000000
  script :=
    "CREATE SCHEMA IF NOT EXISTS users; CREATE SCHEMA IF NOT EXISTS posts; "
      ++ "CREATE TABLE users.users ( user_id BIGINT GENERATED ALWAYS AS IDENTITY PRIMARY KEY, "
      ++ "email TEXT NOT NULL, first_name TEXT NOT NULL, last_name TEXT NOT NULL, "
      ++ "is_active BOOLEAN NOT NULL DEFAULT TRUE, created_at TIMESTAMPTZ NOT NULL DEFAULT now(), "
      ++ "updated_at TIMESTAMPTZ NOT NULL DEFAULT now(), "
      ++ "CONSTRAINT users_email_key UNIQUE (email) ); "
      ++ "CREATE TABLE posts.posts ( post_id BIGINT GENERATED ALWAYS AS IDENTITY PRIMARY KEY, "
      ++ "title TEXT NOT NULL, content TEXT NOT NULL, user_id BIGINT NOT NULL, "
      ++ "published BOOLEAN NOT NULL DEFAULT FALSE, created_at TIMESTAMPTZ NOT NULL DEFAULT now(), "
      ++ "updated_at TIMESTAMPTZ NOT NULL DEFAULT now(), "
      ++ "CONSTRAINT posts_user_id_fkey FOREIGN KEY (user_id) "
      ++ "REFERENCES users.users (user_id) ON DELETE CASCADE ); "
      ++ "CREATE INDEX posts_user_id_idx ON posts.posts (user_id);"

def all : List Migration := [usersAndPosts]

inductive Fault where
  | dirty (version : Int)
  | unknown (version : Int)
  | modified (version : Int)
  | refused (version : Int) (e : DatabaseError)
  deriving DecidableEq, Repr

def Fault.message : Fault → String
  | .dirty v =>
    name v ++ " is partially applied; fix and remove row from `_sqlx_migrations` table"
  | .unknown v =>
    name v ++ " was previously applied but is missing in the resolved migrations"
  | .modified v => name v ++ " was previously applied but has been modified"
  | .refused v e => "while executing " ++ name v ++ ": " ++ e.message
where
  name (v : Int) : String := "migration " ++ toString v

abbrev Migrating (α : Type) := ExceptT Fault (Dialogue Migration fun _ => Except Refusal Unit) α

def send (m : Migration) : Migrating Unit :=
  ExceptT.mk ((Dialogue.question m).bind fun reply =>
    .done (reply.mapError fun r => .refused m.version (.refused r)))

def check (p : Applied → Bool) (fault : Int → Fault) (applied : List Applied) : Migrating Unit :=
  match applied.find? p with
  | some a => throw (fault a.version)
  | none => pure ()

/-- Sends a migration that the database has not seen. Of two rows for it the last one counts. -/
def apply (applied : List Applied) (m : Migration) : Migrating Unit :=
  match applied.reverse.find? (·.version = m.version) with
  | some a => if a.unchanged then pure () else throw (.modified m.version)
  | none => send m

/-- A migration that broke off comes before one that is unknown, and both before all sending. -/
def run (applied : List Applied) : Migrating Unit := do
  let applied := applied.mergeSort fun a b => a.version ≤ b.version
  check (!·.success) .dirty applied
  check (fun a => all.all (·.version ≠ a.version)) .unknown applied
  all.forM (apply applied)

end Migration

end Bulletin.Sql
