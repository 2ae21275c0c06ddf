import Mathlib.Data.List.Forall2
import Bulletin.Proofs.Store.Timeless
import Bulletin.Service.Error

/-!
Responses that differ in nothing but times. In a body, what may differ are the values of members
with the names of times; within texts those names cannot stand, for there every quote is escaped.
-/

namespace Bulletin

inductive AlikeBytes : Bytes → Bytes → Prop
  | nil : AlikeBytes [] []
  | byte (b : UInt8) {x y} : AlikeBytes x y → AlikeBytes (b :: x) (b :: y)
  | time {name : String} {t t' : Timestamp} {v v' x y : Bytes} :
    name = "created_at" ∨ name = "updated_at" → t.write? = some v → t'.write? = some v' →
    AlikeBytes x y → AlikeBytes (Json.Write.member name v ++ x) (Json.Write.member name v' ++ y)

namespace AlikeBytes

variable {a b c d x y : Bytes}

theorem refl (x : Bytes) : AlikeBytes x x := by
  induction x with
  | nil => exact nil
  | cons b x ih => exact byte b ih

theorem append (h : AlikeBytes a b) (h' : AlikeBytes c d) : AlikeBytes (a ++ c) (b ++ d) := by
  induction h with
  | nil => exact h'
  | byte b _ ih => exact byte b ih
  | time hname ht ht' _ ih =>
    rw [List.append_assoc, List.append_assoc]
    exact time hname ht ht' ih

theorem member_time {name : String} {t t' : Timestamp} {v v' : Bytes}
    (hname : name = "created_at" ∨ name = "updated_at") (ht : t.write? = some v)
    (ht' : t'.write? = some v') :
    AlikeBytes (Json.Write.member name v) (Json.Write.member name v') := by
  simpa using time hname ht ht' nil

theorem intercalate (separator : Bytes) {l l' : List Bytes} (h : List.Forall₂ AlikeBytes l l') :
    AlikeBytes (separator.intercalate l) (separator.intercalate l') := by
  induction h with
  | nil => exact nil
  | cons hfirst hrest ih =>
    cases hrest with
    | nil => simpa using hfirst
    | cons _ _ =>
      rw [List.intercalate_cons_cons, List.intercalate_cons_cons]
      exact (hfirst.append (refl separator)).append ih

theorem list {l l' : List Bytes} (h : List.Forall₂ AlikeBytes l l') :
    AlikeBytes (Json.Write.list l) (Json.Write.list l') :=
  byte _ ((intercalate _ h).append (refl _))

theorem object {l l' : List (String × Bytes)}
    (h : List.Forall₂ (fun m m' => AlikeBytes (Json.Write.member m.1 m.2)
      (Json.Write.member m'.1 m'.2)) l l') :
    AlikeBytes (Json.Write.object l) (Json.Write.object l') := by
  apply byte
  apply append _ (refl _)
  apply intercalate
  exact List.forall₂_map_left_iff.2 (List.forall₂_map_right_iff.2 h)

end AlikeBytes

structure Response.Alike (r r' : Response) : Prop where
  status : r.status = r'.status
  contentType : r.contentType = r'.contentType
  allow : r.allow = r'.allow
  body : AlikeBytes r.body r'.body

theorem Response.Alike.refl (r : Response) : r.Alike r := ⟨rfl, rfl, rfl, .refl _⟩

def PostView.timeless (v : PostView) : PostView := { v with post := v.post.timeless }

def AlikeBodies (body? body'? : Option Bytes) : Prop :=
  ∀ body ∈ body?, ∀ body' ∈ body'?, AlikeBytes body body'

def writeDated? (members : List (String × Bytes)) (created updated : Timestamp) : Option Bytes := do
  let created ← created.write?
  let updated ← updated.write?
  return Json.Write.object (members ++ [("created_at", created), ("updated_at", updated)])

theorem alikeBodies_dated (members : List (String × Bytes)) (created updated created' updated') :
    AlikeBodies (writeDated? members created updated) (writeDated? members created' updated') := by
  intro body hbody body' hbody'
  simp [writeDated?, Option.bind_eq_some_iff] at hbody hbody'
  obtain ⟨c, hc, u, hu, rfl⟩ := hbody
  obtain ⟨c', hc', u', hu', rfl⟩ := hbody'
  apply AlikeBytes.object
  induction members with
  | nil =>
    have hcreated := AlikeBytes.member_time (.inl rfl) hc hc'
    have hupdated := AlikeBytes.member_time (.inr rfl) hu hu'
    exact .cons hcreated (.cons hupdated .nil)
  | cons m members ih => exact .cons (.refl _) ih

theorem alikeBodies_user {user user' : User} (h : user.timeless = user'.timeless) :
    AlikeBodies user.write? user'.write? := by
  have hdated (user : User) : user.write? = writeDated? [
      ("id", user.timeless.id.write),
      ("email", user.timeless.email.write),
      ("first_name", Json.Write.text user.timeless.firstName),
      ("last_name", Json.Write.text user.timeless.lastName),
      ("is_active", Json.Write.flag user.timeless.isActive)] user.createdAt user.updatedAt := rfl
  rw [hdated, hdated, h]
  apply alikeBodies_dated

theorem alikeBodies_post {v v' : PostView} (h : v.timeless = v'.timeless) :
    AlikeBodies v.write? v'.write? := by
  have hdated (v : PostView) : v.write? = writeDated? [
      ("id", v.timeless.post.id.write),
      ("title", Json.Write.text v.timeless.post.title),
      ("content", Json.Write.text v.timeless.post.content),
      ("author", v.timeless.post.author.write),
      ("author_name", Json.Write.text v.timeless.authorName),
      ("published", Json.Write.flag v.timeless.post.published)]
      v.post.createdAt v.post.updatedAt := rfl
  rw [hdated, hdated, h]
  apply alikeBodies_dated

theorem alikeBodies_list {α β : Type} {f : α → β} {write? : α → Option Bytes}
    (hwrite : ∀ a a', f a = f a' → AlikeBodies (write? a) (write? a')) {items items' : List α}
    (h : items.map f = items'.map f) :
    AlikeBodies (writeList? write? items) (writeList? write? items') := by
  intro body hbody body' hbody'
  obtain ⟨texts, htexts, rfl⟩ := Option.map_eq_some_iff.1 hbody
  obtain ⟨texts', htexts', rfl⟩ := Option.map_eq_some_iff.1 hbody'
  apply AlikeBytes.list
  clear hbody hbody'
  induction items generalizing items' texts texts' with
  | nil =>
    cases items' with
    | nil =>
      cases htexts
      cases htexts'
      exact .nil
    | cons a' items' => cases h
  | cons a items ih =>
    cases items' with
    | nil => cases h
    | cons a' items' =>
      simp only [List.map_cons, List.cons.injEq] at h
      simp [List.mapM_cons, Option.bind_eq_some_iff] at htexts htexts'
      obtain ⟨text, htext, texts, htexts, rfl⟩ := htexts
      obtain ⟨text', htext', texts', htexts', rfl⟩ := htexts'
      refine .cons (hwrite a a' h.1 text htext text' htext') ?_
      exact ih h.2 _ htexts _ htexts'

end Bulletin
