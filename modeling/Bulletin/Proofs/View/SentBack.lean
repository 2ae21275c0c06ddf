import Bulletin.Proofs.Json.Document
import Bulletin.Proofs.View.Tidy
import Bulletin.Proofs.View.Wire

namespace Bulletin

open Json (Scalar)

variable {mode : Intent} {payload : Json.Members}

def User.members (u : User) (createdAt updatedAt : String) : Json.Members := [
  ("id", .number (.natural u.id.number)),
  ("email", .text u.email.text),
  ("first_name", .text u.firstName),
  ("last_name", .text u.lastName),
  ("is_active", .flag u.isActive),
  ("created_at", .text createdAt),
  ("updated_at", .text updatedAt)]

def PostView.members (v : PostView) (createdAt updatedAt : String) : Json.Members := [
  ("id", .number (.natural v.post.id.number)),
  ("title", .text v.post.title),
  ("content", .text v.post.content),
  ("author", .number (.natural v.post.author.number)),
  ("author_name", .text v.authorName),
  ("published", .flag v.post.published),
  ("created_at", .text createdAt),
  ("updated_at", .text updatedAt)]

theorem User.readObject_write {u : User} {body : Bytes} (h : u.write? = some body) :
    ∃ createdAt updatedAt, Json.readObject body = .ok (u.members createdAt updatedAt) := by
  simp only [write?, Option.bind_eq_bind, Option.bind_eq_some_iff, Option.pure_def,
    Option.some.injEq] at h
  obtain ⟨_, hcreated, _, hupdated, rfl⟩ := h
  obtain ⟨createdAt, rfl, -⟩ := Timestamp.text_of_write hcreated
  obtain ⟨updatedAt, rfl, -⟩ := Timestamp.text_of_write hupdated
  refine ⟨createdAt, updatedAt, Json.readObject_written ?_⟩
  apply Json.Members.Spelled.cons (Json.spelled_natural _ _)
  apply Json.Members.Spelled.cons (Json.spelled_text _ _)
  apply Json.Members.Spelled.cons (Json.spelled_text _ _)
  apply Json.Members.Spelled.cons (Json.spelled_text _ _)
  apply Json.Members.Spelled.cons (Json.spelled_flag _ _)
  apply Json.Members.Spelled.cons (Json.spelled_text _ _)
  apply Json.Members.Spelled.cons (Json.spelled_text _ _)
  exact .nil

theorem PostView.readObject_write {v : PostView} {body : Bytes} (h : v.write? = some body) :
    ∃ createdAt updatedAt, Json.readObject body = .ok (v.members createdAt updatedAt) := by
  simp only [write?, Option.bind_eq_bind, Option.bind_eq_some_iff, Option.pure_def,
    Option.some.injEq] at h
  obtain ⟨_, hcreated, _, hupdated, rfl⟩ := h
  obtain ⟨createdAt, rfl, -⟩ := Timestamp.text_of_write hcreated
  obtain ⟨updatedAt, rfl, -⟩ := Timestamp.text_of_write hupdated
  refine ⟨createdAt, updatedAt, Json.readObject_written ?_⟩
  apply Json.Members.Spelled.cons (Json.spelled_natural _ _)
  apply Json.Members.Spelled.cons (Json.spelled_text _ _)
  apply Json.Members.Spelled.cons (Json.spelled_text _ _)
  apply Json.Members.Spelled.cons (Json.spelled_natural _ _)
  apply Json.Members.Spelled.cons (Json.spelled_text _ _)
  apply Json.Members.Spelled.cons (Json.spelled_flag _ _)
  apply Json.Members.Spelled.cons (Json.spelled_text _ _)
  apply Json.Members.Spelled.cons (Json.spelled_text _ _)
  exact .nil

theorem Text.trim_of_tidy {max : Option Nat} {s : String} (h : Tidy max s) : trim s = s := by
  have hstart : s.toList.dropWhile isBlank = s.toList := by
    apply List.dropWhile_eq_self_iff.2
    intro hpos
    rw [h.start _ (List.head?_eq_getElem? ▸ List.getElem?_eq_getElem hpos)]
    decide
  have hfinish : s.toList.rdropWhile isBlank = s.toList := by
    apply List.rdropWhile_eq_self_iff.2
    intro hne
    rw [h.finish _ (List.getLast?_eq_some_getLast hne)]
    decide
  apply String.toList_injective
  rw [toList_trim, hstart, hfinish]

namespace Field

variable {α : Type} {field : Field α} {name : String} {max : Option Nat} {value : Json}

theorem reads_text {s : String} (h : Text.Tidy max s) :
    (text name max).ofValue (.text s) = .reads s := by
  have hfits : max.filter (· < s.length) = none := by
    cases max with
    | none => rfl
    | some most => simpa [Option.filter] using h.length most rfl
  have haccept : (text name max).scalar.ofJson (.text s) = .ok s := rfl
  have hcheck : (text name max).check s = .ok s := by
    simp [text, Text.trim_of_tidy h, h.nonempty, hfits]
  simp only [ofValue, haccept, hcheck]

theorem reads_email (e : Email) : Field.email.ofValue (.text e.text) = .reads e := by
  have haccept : Email.scalar.ofJson (.text e.text) = .ok e := by
    change (Email.ofText e.text).mapError _ = _
    rw [Email.ofText_text]
    rfl
  simp only [ofValue, Field.email, haccept]

theorem reads_flag {hasDefault : Bool} (b : Bool) :
    Field.ofValue { name, scalar := Scalar.flag, hasDefault } (.flag b) = .reads b := rfl

theorem reads_author (id : UserId) :
    Field.author.ofValue (.number (.natural id.number)) = .reads id := rfl

theorem value?_of_reads {a : α} (hget : payload.get? field.name = some value)
    (h : field.ofValue value = .reads a) :
    (field.offence mode payload).2 = none ∧ field.value? mode payload = some a := by
  rw [offence, value?, judge_given hget, h]
  exact ⟨rfl, rfl⟩

end Field

def User.changes (u : User) : UserChanges :=
  ⟨some u.email, some u.firstName, some u.lastName, some u.isActive⟩

def Post.changes (p : Post) : PostChanges :=
  ⟨some p.title, some p.content, some p.author, some p.published⟩

theorem parse_user_members {u : User} (h : u.Tidy) (createdAt updatedAt : String) :
    Form.userChanges.parse mode (u.members createdAt updatedAt) = .ok u.changes := by
  generalize hpayload : u.members createdAt updatedAt = payload
  obtain ⟨hemail, hemailValue⟩ : _ ∧ Field.email.value? mode payload = some u.email :=
    Field.value?_of_reads (hpayload ▸ rfl) (Field.reads_email u.email)
  obtain ⟨hfirst, hfirstValue⟩ : _ ∧ Field.firstName.value? mode payload = some u.firstName :=
    Field.value?_of_reads (hpayload ▸ rfl) (Field.reads_text h.firstName)
  obtain ⟨hlast, hlastValue⟩ : _ ∧ Field.lastName.value? mode payload = some u.lastName :=
    Field.value?_of_reads (hpayload ▸ rfl) (Field.reads_text h.lastName)
  obtain ⟨hactive, hactiveValue⟩ : _ ∧ Field.isActive.value? mode payload = some u.isActive :=
    Field.value?_of_reads (hpayload ▸ rfl) (Field.reads_flag u.isActive)
  have hnone : userOffences mode payload = [] :=
    offences_eq_nil_iff.2 (by simp [hemail, hfirst, hlast, hactive])
  obtain ⟨changes, hchanges, hparse⟩ := (judged_userChanges mode payload).accepted hnone id
  rw [hparse, ← Option.some.inj hchanges, hemailValue, hfirstValue, hlastValue, hactiveValue,
    User.changes]

theorem parse_post_members {v : PostView} (h : v.post.Tidy) (createdAt updatedAt : String) :
    Form.postChanges.parse mode (v.members createdAt updatedAt) = .ok v.post.changes := by
  generalize hpayload : v.members createdAt updatedAt = payload
  obtain ⟨htitle, htitleValue⟩ : _ ∧ Field.title.value? mode payload = some v.post.title :=
    Field.value?_of_reads (hpayload ▸ rfl) (Field.reads_text h.title)
  obtain ⟨hcontent, hcontentValue⟩ : _ ∧ Field.content.value? mode payload = some v.post.content :=
    Field.value?_of_reads (hpayload ▸ rfl) (Field.reads_text h.content)
  obtain ⟨hauthor, hauthorValue⟩ : _ ∧ Field.author.value? mode payload = some v.post.author :=
    Field.value?_of_reads (hpayload ▸ rfl) (Field.reads_author v.post.author)
  obtain ⟨hpublished, hpublishedValue⟩ :
      _ ∧ Field.published.value? mode payload = some v.post.published :=
    Field.value?_of_reads (hpayload ▸ rfl) (Field.reads_flag v.post.published)
  have hnone : postOffences mode payload = [] :=
    offences_eq_nil_iff.2 (by simp [htitle, hcontent, hauthor, hpublished])
  obtain ⟨changes, hchanges, hparse⟩ := (judged_postChanges mode payload).accepted hnone id
  rw [hparse, ← Option.some.inj hchanges, htitleValue, hcontentValue, hauthorValue,
    hpublishedValue, Post.changes]

end Bulletin
