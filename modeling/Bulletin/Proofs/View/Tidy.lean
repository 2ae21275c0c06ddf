import Mathlib.Data.List.DropRight
import Bulletin.Proofs.View.Given
import Bulletin.Store.Tidy

namespace Bulletin

namespace Text

theorem not_blank_of_head?_dropWhile {l : List Char} {c : Char}
    (h : c ∈ (l.dropWhile isBlank).head?) : isBlank c = false := by
  have hhead := List.head?_dropWhile_not isBlank l
  rw [Option.mem_def.1 h] at hhead
  exact hhead

theorem toList_trim (s : String) :
    (trim s).toList = (s.toList.dropWhile isBlank).rdropWhile isBlank :=
  String.toList_ofList

theorem not_blank_of_head?_trim {s : String} {c : Char} (h : c ∈ (trim s).toList.head?) :
    isBlank c = false := by
  rw [toList_trim] at h
  obtain ⟨rest, hrest⟩ := List.rdropWhile_prefix isBlank (s.toList.dropWhile isBlank)
  apply not_blank_of_head?_dropWhile (l := s.toList)
  rw [← hrest, List.head?_append, Option.mem_def.1 h]
  rfl

theorem not_blank_of_getLast?_trim {s : String} {c : Char} (h : c ∈ (trim s).toList.getLast?) :
    isBlank c = false := by
  rw [toList_trim, List.rdropWhile, List.getLast?_reverse] at h
  exact not_blank_of_head?_dropWhile h

theorem tidy_trim {max : Option Nat} {s : String} (hne : trim s ≠ "")
    (hmax : ∀ most ∈ max, (trim s).length ≤ most) : Tidy max (trim s) where
  nonempty := hne
  start _ := not_blank_of_head?_trim
  finish _ := not_blank_of_getLast?_trim
  length := hmax

end Text

namespace Field

variable {mode : Intent} {payload : Json.Members} {name : String} {max : Option Nat} {s : String}

theorem tidy_of_check {given : String} (h : (text name max).check given = .ok s) :
    Text.Tidy max s := by
  simp only [text] at h
  split at h
  case isTrue => cases h
  case isFalse hne =>
    split at h
    case h_1 => cases h
    case h_2 hfits =>
      cases h
      apply Text.tidy_trim hne
      rintro most rfl
      simpa [Option.filter] using hfits

theorem tidy_of_value? (h : (text name max).value? mode payload = some s) : Text.Tidy max s := by
  cases hget : payload.get? (text name max).name with
  | none =>
    rw [value?_of_absent _ hget] at h
    cases h
  | some value =>
    rw [value?, judge_given hget] at h
    cases hvalue : (text name max).ofValue value with
    | absent => exact absurd hvalue (ofValue_ne_absent value)
    | offends message =>
      rw [hvalue] at h
      cases h
    | reads read =>
      rw [hvalue] at h
      cases h
      obtain ⟨given, -, hcheck⟩ := of_ofValue hvalue
      exact tidy_of_check hcheck

end Field

section Forms

variable {mode : Intent} {payload : Json.Members}

theorem tidy_newUser {new : NewUser} (h : Form.newUser.parse mode payload = .ok new) :
    (Call.createUser new).Tidy := by
  obtain ⟨-, hvalues⟩ := (judged_newUser mode payload).of_ok h
  simp only [Option.bind_eq_bind, Option.bind_eq_some_iff, Option.pure_def, Option.some.injEq]
    at hvalues
  obtain ⟨email, -, firstName, hfirstName, lastName, hlastName, rfl⟩ := hvalues
  exact ⟨Field.tidy_of_value? hfirstName, Field.tidy_of_value? hlastName⟩

theorem tidy_userChanges {changes : UserChanges}
    (h : Form.userChanges.parse mode payload = .ok changes) (id : UserId) :
    (Call.updateUser id changes).Tidy := by
  obtain ⟨-, hvalues⟩ := (judged_userChanges mode payload).of_ok h
  obtain rfl := Option.some.inj hvalues
  exact ⟨fun _ => Field.tidy_of_value?, fun _ => Field.tidy_of_value?⟩

theorem tidy_newPost {new : NewPost} (h : Form.newPost.parse mode payload = .ok new) :
    (Call.createPost new).Tidy := by
  obtain ⟨-, hvalues⟩ := (judged_newPost mode payload).of_ok h
  simp only [Option.bind_eq_bind, Option.bind_eq_some_iff, Option.pure_def, Option.some.injEq]
    at hvalues
  obtain ⟨title, htitle, content, hcontent, author, -, rfl⟩ := hvalues
  exact ⟨Field.tidy_of_value? htitle, Field.tidy_of_value? hcontent⟩

theorem tidy_postChanges {changes : PostChanges}
    (h : Form.postChanges.parse mode payload = .ok changes) (id : PostId) :
    (Call.updatePost id changes).Tidy := by
  obtain ⟨-, hvalues⟩ := (judged_postChanges mode payload).of_ok h
  obtain rfl := Option.some.inj hvalues
  exact ⟨fun _ => Field.tidy_of_value?, fun _ => Field.tidy_of_value?⟩

end Forms

end Bulletin
