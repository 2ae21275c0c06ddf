import Mathlib.Data.List.Induction
import Bulletin.View.Taking

namespace Bulletin.FieldErrors

variable {entries : List (String × List String)} {log : List (String × String)}
variable {field name message : String}

def Ascending (entries : List (String × List String)) : Prop :=
  entries.Pairwise fun a b => a.1 < b.1

theorem name_of_mem_insert {entry : String × List String}
    (h : entry ∈ insert field message entries) :
    entry.1 = field ∨ ∃ other ∈ entries, other.1 = entry.1 := by
  induction entries with
  | nil =>
    rw [insert, List.mem_singleton] at h
    exact .inl (h ▸ rfl)
  | cons first rest ih =>
    obtain ⟨name, messages⟩ := first
    unfold insert at h
    split at h
    · rcases List.mem_cons.1 h with rfl | h
      · exact .inl rfl
      · exact .inr ⟨entry, h, rfl⟩
    · split at h
      · rcases List.mem_cons.1 h with rfl | h
        · exact .inr ⟨_, List.mem_cons_self, rfl⟩
        · exact .inr ⟨entry, List.mem_cons_of_mem _ h, rfl⟩
      · rcases List.mem_cons.1 h with rfl | h
        · exact .inr ⟨_, List.mem_cons_self, rfl⟩
        · rcases ih h with hfield | ⟨other, hother, heq⟩
          · exact .inl hfield
          · exact .inr ⟨other, List.mem_cons_of_mem _ hother, heq⟩

theorem ascending_insert (h : Ascending entries) : Ascending (insert field message entries) := by
  induction entries with
  | nil => exact List.pairwise_singleton _ _
  | cons first rest ih =>
    obtain ⟨name, messages⟩ := first
    obtain ⟨hfirst, hrest⟩ := List.pairwise_cons.1 h
    unfold insert
    split
    case isTrue hlt =>
      refine List.pairwise_cons.2 ⟨?_, h⟩
      rintro entry (_ | ⟨_, hentry⟩)
      · exact hlt
      · exact String.lt_trans hlt (hfirst entry hentry)
    case isFalse hle =>
      split
      case isTrue => exact List.pairwise_cons.2 ⟨hfirst, hrest⟩
      case isFalse hne =>
        refine List.pairwise_cons.2 ⟨?_, ih hrest⟩
        intro entry hentry
        rcases name_of_mem_insert hentry with hfield | ⟨other, hother, heq⟩
        · rw [hfield]
          exact String.not_le.1 fun hge => hne (String.le_antisymm (String.not_lt.1 hle) hge).symm
        · exact heq ▸ hfirst other hother

theorem lookup_eq_none (h : ∀ entry ∈ entries, field < entry.1) : entries.lookup field = none :=
  List.lookup_eq_none_iff.2 fun entry hentry => by simpa using String.ne_of_lt (h entry hentry)

theorem lookup_cons_of_ne {α : Type} {a : α} {entries : List (String × α)} (h : name ≠ field) :
    ((field, a) :: entries).lookup name = entries.lookup name := by
  rw [List.lookup_cons, beq_false_of_ne h]

theorem lookup_of_mem (h : Ascending entries) {entry : String × List String}
    (hentry : entry ∈ entries) : entries.lookup entry.1 = some entry.2 := by
  induction entries with
  | nil => cases hentry
  | cons first entries ih =>
    obtain ⟨hfirst, hentries⟩ := List.pairwise_cons.1 h
    rcases List.mem_cons.1 hentry with rfl | hentry
    · exact List.lookup_cons_self
    · have hne : entry.1 ≠ first.1 := (String.ne_of_lt (hfirst entry hentry)).symm
      exact (lookup_cons_of_ne hne).trans (ih hentries hentry)

theorem mem_fields_iff {errors : FieldErrors} :
    field ∈ errors.fields ↔ errors.field? field ≠ none := by
  rw [field?, ne_eq, List.lookup_eq_none_iff, fields, List.mem_map]
  simp [eq_comm (a := field)]

theorem lookup_insert_self (h : Ascending entries) : (insert field message entries).lookup field =
    some ((entries.lookup field).getD [] ++ [message]) := by
  induction entries with
  | nil => exact List.lookup_cons_self
  | cons first rest ih =>
    obtain ⟨name, messages⟩ := first
    obtain ⟨hfirst, hrest⟩ := List.pairwise_cons.1 h
    unfold insert
    split
    case isTrue hlt =>
      have hnone : List.lookup field ((name, messages) :: rest) = none := by
        apply lookup_eq_none
        rintro entry (_ | ⟨_, hentry⟩)
        · exact hlt
        · exact String.lt_trans hlt (hfirst entry hentry)
      rw [List.lookup_cons_self, hnone]
      rfl
    case isFalse =>
      split
      case isTrue heq =>
        subst heq
        rw [List.lookup_cons_self, List.lookup_cons_self]
        rfl
      case isFalse hne => rw [lookup_cons_of_ne hne, lookup_cons_of_ne hne, ih hrest]

theorem lookup_insert_of_ne (h : name ≠ field) :
    (insert field message entries).lookup name = entries.lookup name := by
  induction entries with
  | nil => exact lookup_cons_of_ne h
  | cons first rest ih =>
    obtain ⟨head, messages⟩ := first
    unfold insert
    split
    · exact lookup_cons_of_ne h
    · split
      case isTrue heq =>
        subst heq
        rw [lookup_cons_of_ne h, lookup_cons_of_ne h]
      case isFalse => rw [List.lookup_cons, List.lookup_cons, ih]

theorem ascending_ofLog (log : List (String × String)) : Ascending (ofLog log).entries := by
  induction log using List.reverseRecOn with
  | nil => exact .nil
  | append_singleton log last ih =>
    rw [ofLog, List.foldl_append]
    exact ascending_insert ih

theorem getD_listed? (log : List (String × String)) (field : String) :
    (listed? log field).getD [] = (log.filter (·.1 = field)).map (·.2) := by
  unfold listed?
  split
  case h_1 hnil => exact hnil.symm
  case h_2 => rfl

theorem listed?_ne_none_iff :
    listed? log field ≠ none ↔ ∃ message, (field, message) ∈ log := by
  unfold listed?
  split
  case h_1 hnil =>
    have hnone : ∀ a ∈ log, a.1 ≠ field := by simpa using hnil
    refine iff_of_false (fun h => h rfl) ?_
    rintro ⟨message, hmem⟩
    exact hnone (field, message) hmem rfl
  case h_2 hne => simpa using hne

theorem listed?_ne_some_nil (log : List (String × String)) (field : String) :
    listed? log field ≠ some [] := by
  unfold listed?
  split
  case h_1 => exact nofun
  case h_2 hne => simpa using hne

theorem field?_ofLog (log : List (String × String)) (field : String) :
    (ofLog log).field? field = listed? log field := by
  induction log using List.reverseRecOn generalizing field with
  | nil => rfl
  | append_singleton log last ih =>
    have hstep : (ofLog (log ++ [last])).field? field =
        (insert last.1 last.2 (ofLog log).entries).lookup field := by
      rw [ofLog, List.foldl_append]
      rfl
    have hbefore : (ofLog log).entries.lookup field = listed? log field := ih field
    rw [hstep]
    by_cases hfield : field = last.1
    · subst hfield
      rw [lookup_insert_self (ascending_ofLog log), hbefore, getD_listed?, listed?,
        List.filter_append, List.map_append]
      cases (log.filter (·.1 = last.1)).map (·.2) <;> simp
    · rw [lookup_insert_of_ne hfield, hbefore, listed?, listed?, List.filter_append,
        List.map_append]
      simp [Ne.symm hfield]

theorem isEmpty_insert : (insert field message entries).isEmpty = false := by
  cases entries with
  | nil => rfl
  | cons first rest =>
    unfold insert
    split
    · rfl
    · split <;> rfl

theorem isEmpty_ofLog : (ofLog log).isEmpty ↔ log = [] := by
  induction log using List.reverseRecOn with
  | nil => exact iff_of_true rfl rfl
  | append_singleton log last _ =>
    rw [ofLog, List.foldl_append]
    exact iff_of_false (Bool.eq_false_iff.1 isEmpty_insert) (by simp)

end Bulletin.FieldErrors
