import Bulletin.Proofs.View.Given
import Bulletin.View.Union

namespace Bulletin

variable {α : Type} {mode : Intent} {earlier later both : Json.Members}

namespace Json.Members

theorem union_append (earlier later : Members) : Union earlier later (earlier ++ later) :=
  get?_append earlier later

theorem Union.get?_of_none (h : Union earlier later both) {name : String}
    (hnone : later.get? name = none) : both.get? name = earlier.get? name := by
  rw [h name, hnone, Option.none_or]

theorem Union.get?_of_some (h : Union earlier later both) {name : String} {value : Json}
    (hsome : later.get? name = some value) : both.get? name = later.get? name := by
  rw [h name, hsome, Option.some_or]

end Json.Members

namespace Field

variable (field : Field α) (h : earlier.Union later both)
include h

theorem offence_union (hearlier : (field.offence mode earlier).2 = none)
    (hlater : (field.offence mode later).2 = none) : (field.offence mode both).2 = none := by
  cases hget : later.get? field.name with
  | none => rwa [offence, judge_congr (h.get?_of_none hget)]
  | some value => rwa [offence, judge_congr (h.get?_of_some hget)]

theorem value?_union (hlater : (field.offence mode later).2 = none) :
    field.value? mode both = (field.value? mode later).or (field.value? mode earlier) := by
  cases hget : later.get? field.name with
  | none =>
    rw [field.value?_of_absent hget, Option.none_or, value?, value?,
      judge_congr (h.get?_of_none hget)]
  | some value =>
    have hjudge : field.judge mode later = field.ofValue value := judge_given hget
    rw [value?, judge_congr (h.get?_of_some hget)]
    rw [offence, hjudge] at hlater
    rw [value?, hjudge]
    cases hvalue : field.ofValue value with
    | absent => exact absurd hvalue (ofValue_ne_absent value)
    | offends message =>
      rw [hvalue] at hlater
      cases hlater
    | reads a => rfl

end Field

theorem userOffences_eq_nil_iff {payload : Json.Members} : userOffences mode payload = [] ↔
    (Field.email.offence mode payload).2 = none ∧ (Field.firstName.offence mode payload).2 = none ∧
    (Field.isActive.offence mode payload).2 = none ∧
      (Field.lastName.offence mode payload).2 = none := by
  simp [userOffences, offences_eq_nil_iff]

theorem postOffences_eq_nil_iff {payload : Json.Members} : postOffences mode payload = [] ↔
    (Field.author.offence mode payload).2 = none ∧ (Field.content.offence mode payload).2 = none ∧
    (Field.published.offence mode payload).2 = none ∧
      (Field.title.offence mode payload).2 = none := by
  simp [postOffences, offences_eq_nil_iff]

section Forms

variable (h : earlier.Union later both)
include h

theorem parse_user_union {first second : UserChanges}
    (hearlier : Form.userChanges.parse mode earlier = .ok first)
    (hlater : Form.userChanges.parse mode later = .ok second) :
    Form.userChanges.parse mode both = .ok (second.orElse first) := by
  obtain ⟨hearlier, hfirst⟩ := (judged_userChanges mode earlier).of_ok hearlier
  obtain ⟨hlater, hsecond⟩ := (judged_userChanges mode later).of_ok hlater
  obtain ⟨email, firstName, isActive, lastName⟩ := userOffences_eq_nil_iff.1 hearlier
  obtain ⟨email', firstName', isActive', lastName'⟩ := userOffences_eq_nil_iff.1 hlater
  have hnone : userOffences mode both = [] := userOffences_eq_nil_iff.2
    ⟨Field.offence_union _ h email email', Field.offence_union _ h firstName firstName',
      Field.offence_union _ h isActive isActive', Field.offence_union _ h lastName lastName'⟩
  obtain ⟨changes, hchanges, hparse⟩ := (judged_userChanges mode both).accepted hnone id
  rw [Field.value?_union _ h email', Field.value?_union _ h firstName',
    Field.value?_union _ h isActive', Field.value?_union _ h lastName'] at hchanges
  rw [hparse, ← Option.some.inj hchanges, ← Option.some.inj hfirst, ← Option.some.inj hsecond]
  rfl

theorem parse_post_union {first second : PostChanges}
    (hearlier : Form.postChanges.parse mode earlier = .ok first)
    (hlater : Form.postChanges.parse mode later = .ok second) :
    Form.postChanges.parse mode both = .ok (second.orElse first) := by
  obtain ⟨hearlier, hfirst⟩ := (judged_postChanges mode earlier).of_ok hearlier
  obtain ⟨hlater, hsecond⟩ := (judged_postChanges mode later).of_ok hlater
  obtain ⟨author, content, published, title⟩ := postOffences_eq_nil_iff.1 hearlier
  obtain ⟨author', content', published', title'⟩ := postOffences_eq_nil_iff.1 hlater
  have hnone : postOffences mode both = [] := postOffences_eq_nil_iff.2
    ⟨Field.offence_union _ h author author', Field.offence_union _ h content content',
      Field.offence_union _ h published published', Field.offence_union _ h title title'⟩
  obtain ⟨changes, hchanges, hparse⟩ := (judged_postChanges mode both).accepted hnone id
  rw [Field.value?_union _ h author', Field.value?_union _ h content',
    Field.value?_union _ h published', Field.value?_union _ h title'] at hchanges
  rw [hparse, ← Option.some.inj hchanges, ← Option.some.inj hfirst, ← Option.some.inj hsecond]
  rfl

end Forms

section Changes

variable (now first second : Timestamp)

theorem UserChanges.revise_orElse (later earlier : UserChanges) (user : User) :
    (later.orElse earlier).revise now user =
      (later.revise second (earlier.revise first user)).dated (user.updatedAt.after now) := by
  simp [orElse, revise, applyTo, User.dated, Option.getD_or]

theorem UserChanges.revise_again (changes : UserChanges) (user : User) :
    changes.revise now (changes.revise first user) =
      (changes.revise first user).dated ((user.updatedAt.after first).after now) := by
  simp [revise, applyTo, User.dated, ← Option.getD_or]

theorem PostChanges.revise_orElse (later earlier : PostChanges) (post : Post) :
    (later.orElse earlier).revise now post =
      (later.revise second (earlier.revise first post)).dated (post.updatedAt.after now) := by
  simp [orElse, revise, applyTo, Post.dated, Option.getD_or]

theorem PostChanges.revise_again (changes : PostChanges) (post : Post) :
    changes.revise now (changes.revise first post) =
      (changes.revise first post).dated ((post.updatedAt.after first).after now) := by
  simp [revise, applyTo, Post.dated, ← Option.getD_or]

end Changes

end Bulletin
