import Bulletin.Proofs.View.Judged
import Bulletin.View.Given

namespace Bulletin

open Json (Scalar)

variable {α : Type} {mode : Intent} {payload : Json.Members} {value : Json}

theorem Json.id_of_natural {entity : Entity} {id other : Id entity}
    (h : number (.natural id.number) = number (.natural other.number)) : id = other := by
  cases id
  cases other
  cases h
  rfl

namespace Field

variable {field : Field α} {name : String} {max : Option Nat}

theorem given_of_reads {P : Json → Prop} (hnone : (field.offence mode payload).2 = none)
    (h : ∀ value, ∀ a ∈ field.value? mode payload, field.ofValue value = .reads a → P value) :
    ∀ value ∈ payload.get? field.name, P value := by
  intro value hget
  have hjudge : field.judge mode payload = field.ofValue value := judge_given hget
  rw [offence, hjudge] at hnone
  rw [value?, hjudge] at h
  cases hvalue : field.ofValue value with
  | absent => exact absurd hvalue (ofValue_ne_absent value)
  | offends message =>
    rw [hvalue] at hnone
    cases hnone
  | reads a => exact h value a (hvalue ▸ rfl) hvalue

variable (field) in
theorem value?_of_absent (hget : payload.get? field.name = none) :
    field.value? mode payload = none := by
  by_cases hmay : field.hasDefault ∨ mode = .patch
  · rw [value?, judge_spared hget hmay]
    rfl
  · rw [value?, judge_missing hget hmay]
    rfl

variable (field) in
theorem getD_of_absent (hget : payload.get? field.name = none) (a : α) :
    (field.value? mode payload).getD a = a := by
  rw [field.value?_of_absent hget, Option.getD_none]

theorem getD_of_mem {a b : α} (h : a ∈ field.value? mode payload) :
    (field.value? mode payload).getD b = a := by
  rw [Option.mem_def.1 h, Option.getD_some]

theorem get?_ne_none {a : α} (h : field.value? mode payload = some a) :
    payload.get? field.name ≠ none := by
  intro hget
  rw [field.value?_of_absent hget] at h
  cases h

theorem of_ofValue {a : α} (h : field.ofValue value = .reads a) :
    ∃ b, field.scalar.accept value.token = .ok b ∧ field.check b = .ok a := by
  cases value with
  | null => cases h
  | _ =>
    simp only [ofValue, Scalar.ofJson] at h
    split at h
    · cases h
    split at h
    · cases h
    · cases h
      exact ⟨_, ‹_›, ‹_›⟩

theorem token_of_text {s : String} (h : Scalar.text.accept value.token = .ok s) :
    value = .text s := by
  cases value <;> cases h
  rfl

theorem text_of_reads {s : String} (h : (text name max).ofValue value = .reads s) :
    ∃ given, value = .text given ∧ s = Text.trim given := by
  obtain ⟨given, htoken, hcheck⟩ := of_ofValue h
  refine ⟨given, token_of_text htoken, ?_⟩
  simp only [text] at hcheck
  split at hcheck
  · cases hcheck
  split at hcheck <;> cases hcheck
  rfl

theorem email_of_reads {email : Email} (h : Field.email.ofValue value = .reads email) :
    value = .text email.text := by
  obtain ⟨given, htoken, hcheck⟩ := of_ofValue h
  cases hcheck
  simp only [Field.email, Email.scalar] at htoken
  split at htoken
  · cases htoken
  case h_2 s hs =>
    rw [token_of_text hs]
    unfold Email.ofText at htoken
    split at htoken
    · cases htoken
    split at htoken <;> cases htoken
    rfl

theorem flag_of_reads {hasDefault b : Bool}
    (h : Field.ofValue { name, scalar := Scalar.flag, hasDefault } value = .reads b) :
    value = .flag b := by
  obtain ⟨given, htoken, hcheck⟩ := of_ofValue h
  cases hcheck
  cases value <;> cases htoken
  rfl

theorem author_of_reads {id : UserId} (h : Field.author.ofValue value = .reads id) :
    value = .number (.natural id.number) := by
  obtain ⟨given, htoken, hcheck⟩ := of_ofValue h
  cases hcheck
  cases value with
  | number n => cases n <;> cases htoken; rfl
  | _ => cases htoken

end Field

section Users

variable {user : User}

theorem given_of_userValues (hnil : userOffences mode payload = [])
    (hemail : ∀ email ∈ Field.email.value? mode payload, user.email = email)
    (hfirstName : ∀ name ∈ Field.firstName.value? mode payload, user.firstName = name)
    (hlastName : ∀ name ∈ Field.lastName.value? mode payload, user.lastName = name)
    (hisActive : ∀ flag ∈ Field.isActive.value? mode payload, user.isActive = flag) :
    user.Given payload := by
  simp only [userOffences, offences_eq_nil_iff, List.forall_mem_cons] at hnil
  obtain ⟨hemailOk, hfirstNameOk, hisActiveOk, hlastNameOk, -⟩ := hnil
  constructor
  · exact Field.given_of_reads hemailOk fun _ email hvalue hreads =>
      hemail email hvalue ▸ Field.email_of_reads hreads
  · exact Field.given_of_reads hfirstNameOk fun _ name hvalue hreads =>
      hfirstName name hvalue ▸ Field.text_of_reads hreads
  · exact Field.given_of_reads hlastNameOk fun _ name hvalue hreads =>
      hlastName name hvalue ▸ Field.text_of_reads hreads
  · exact Field.given_of_reads hisActiveOk fun _ flag hvalue hreads =>
      hisActive flag hvalue ▸ Field.flag_of_reads hreads

theorem given_newUser {new : NewUser} (h : Form.newUser.parse mode payload = .ok new) (id : UserId)
    (now : Timestamp) :
    (new.toUser id now).Given payload ∧ (new.toUser id now).Complete payload := by
  obtain ⟨hnil, hvalues⟩ := (judged_newUser mode payload).of_ok h
  simp only [Option.bind_eq_bind, Option.bind_eq_some_iff, Option.pure_def, Option.some.injEq]
    at hvalues
  obtain ⟨email, hemail, firstName, hfirstName, lastName, hlastName, rfl⟩ := hvalues
  constructor
  · exact given_of_userValues hnil (fun _ h => Option.some.inj (hemail.symm.trans h))
      (fun _ h => Option.some.inj (hfirstName.symm.trans h))
      (fun _ h => Option.some.inj (hlastName.symm.trans h)) fun _ h => Field.getD_of_mem h
  · exact ⟨Field.get?_ne_none hemail, Field.get?_ne_none hfirstName, Field.get?_ne_none hlastName,
      fun hget => Field.isActive.getD_of_absent hget true⟩

theorem given_userChanges {changes : UserChanges}
    (h : Form.userChanges.parse mode payload = .ok changes) (now : Timestamp) (user : User) :
    (changes.revise now user).Given payload ∧ (changes.revise now user).Kept payload user := by
  obtain ⟨hnil, hvalues⟩ := (judged_userChanges mode payload).of_ok h
  obtain rfl := Option.some.inj hvalues
  constructor
  · exact given_of_userValues hnil (fun _ h => Field.getD_of_mem h)
      (fun _ h => Field.getD_of_mem h) (fun _ h => Field.getD_of_mem h) fun _ h =>
        Field.getD_of_mem h
  · exact ⟨rfl, rfl, fun hget => Field.email.getD_of_absent hget _,
      fun hget => Field.firstName.getD_of_absent hget _,
      fun hget => Field.lastName.getD_of_absent hget _,
      fun hget => Field.isActive.getD_of_absent hget _⟩

end Users

section Posts

theorem given_of_postValues {post : Post} (hnil : postOffences mode payload = [])
    (htitle : ∀ text ∈ Field.title.value? mode payload, post.title = text)
    (hcontent : ∀ text ∈ Field.content.value? mode payload, post.content = text)
    (hauthor : ∀ id ∈ Field.author.value? mode payload, post.author = id)
    (hpublished : ∀ flag ∈ Field.published.value? mode payload, post.published = flag) :
    post.Given payload := by
  simp only [postOffences, offences_eq_nil_iff, List.forall_mem_cons] at hnil
  obtain ⟨hauthorOk, hcontentOk, hpublishedOk, htitleOk, -⟩ := hnil
  constructor
  · exact Field.given_of_reads htitleOk fun _ text hvalue hreads =>
      htitle text hvalue ▸ Field.text_of_reads hreads
  · exact Field.given_of_reads hcontentOk fun _ text hvalue hreads =>
      hcontent text hvalue ▸ Field.text_of_reads hreads
  · exact Field.given_of_reads hauthorOk fun _ id hvalue hreads =>
      hauthor id hvalue ▸ Field.author_of_reads hreads
  · exact Field.given_of_reads hpublishedOk fun _ flag hvalue hreads =>
      hpublished flag hvalue ▸ Field.flag_of_reads hreads

theorem given_newPost {new : NewPost} (h : Form.newPost.parse mode payload = .ok new) (id : PostId)
    (now : Timestamp) :
    (new.toPost id now).Given payload ∧ (new.toPost id now).Complete payload := by
  obtain ⟨hnil, hvalues⟩ := (judged_newPost mode payload).of_ok h
  simp only [Option.bind_eq_bind, Option.bind_eq_some_iff, Option.pure_def, Option.some.injEq]
    at hvalues
  obtain ⟨title, htitle, content, hcontent, author, hauthor, rfl⟩ := hvalues
  constructor
  · exact given_of_postValues hnil (fun _ h => Option.some.inj (htitle.symm.trans h))
      (fun _ h => Option.some.inj (hcontent.symm.trans h))
      (fun _ h => Option.some.inj (hauthor.symm.trans h)) fun _ h => Field.getD_of_mem h
  · exact ⟨Field.get?_ne_none htitle, Field.get?_ne_none hcontent, Field.get?_ne_none hauthor,
      fun hget => Field.published.getD_of_absent hget false⟩

theorem given_postChanges {changes : PostChanges}
    (h : Form.postChanges.parse mode payload = .ok changes) (now : Timestamp) (post : Post) :
    (changes.revise now post).Given payload ∧ (changes.revise now post).Kept payload post := by
  obtain ⟨hnil, hvalues⟩ := (judged_postChanges mode payload).of_ok h
  obtain rfl := Option.some.inj hvalues
  constructor
  · exact given_of_postValues hnil (fun _ h => Field.getD_of_mem h)
      (fun _ h => Field.getD_of_mem h) (fun _ h => Field.getD_of_mem h) fun _ h =>
        Field.getD_of_mem h
  · exact ⟨rfl, rfl, fun hget => Field.title.getD_of_absent hget _,
      fun hget => Field.content.getD_of_absent hget _,
      fun hget => Field.author.getD_of_absent hget _,
      fun hget => Field.published.getD_of_absent hget _⟩

end Posts

end Bulletin
