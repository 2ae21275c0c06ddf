import Bulletin.Proofs.Json.Document
import Bulletin.Proofs.Text.Order
import Bulletin.Proofs.View.FieldErrors
import Bulletin.View.Grouped

namespace Bulletin.FieldErrors

variable {entries : List (String × List String)} {log log' : List (String × String)}
variable {a b c : String × String}

theorem precedes_iff : precedes a b ↔ a.1 ≤ b.1 := by
  rw [precedes, decide_eq_true_iff, utf8_le_iff]

theorem precedes_trans (a b c : String × String) (hab : precedes a b) (hbc : precedes b c) :
    precedes a c :=
  precedes_iff.2 (String.le_trans (precedes_iff.1 hab) (precedes_iff.1 hbc))

theorem precedes_total (a b : String × String) : precedes a b || precedes b a := by
  rw [Bool.or_eq_true, precedes_iff, precedes_iff]
  exact String.le_total a.1 b.1

theorem pairwise_sorted (log : List (String × String)) :
    (sorted log).Pairwise fun a b => a.1 ≤ b.1 :=
  (List.pairwise_mergeSort precedes_trans precedes_total log).imp precedes_iff.1

theorem filter_sorted (log : List (String × String)) (field : String) :
    (sorted log).filter (·.1 = field) = log.filter (·.1 = field) := by
  have hequal : (log.filter (·.1 = field)).Pairwise fun a b => precedes a b := by
    refine List.pairwise_of_forall_mem_list fun a ha b hb => precedes_iff.2 ?_
    have ha : a.1 = field := of_decide_eq_true (List.mem_filter.1 ha).2
    have hb : b.1 = field := of_decide_eq_true (List.mem_filter.1 hb).2
    exact ha.trans hb.symm ▸ String.le_refl a.1
  have hsublist : (log.filter (·.1 = field)).Sublist (sorted log) :=
    List.sublist_mergeSort precedes_trans precedes_total hequal List.filter_sublist
  have hfilter := hsublist.filter (·.1 = field)
  rw [List.filter_filter, List.filter_congr (q := (·.1 = field)) (by simp)] at hfilter
  refine (hfilter.eq_of_length ?_).symm
  exact ((List.mergeSort_perm log precedes).filter _).length_eq.symm

theorem le_of_filter (hb : ∀ c ∈ log', b.1 ≤ c.1)
    (h : (a :: log).filter (·.1 = a.1) = (b :: log').filter (·.1 = a.1)) : b.1 ≤ a.1 := by
  have ha : a ∈ (b :: log').filter (·.1 = a.1) := by
    rw [← h]
    exact List.mem_filter.2 ⟨List.mem_cons_self, decide_eq_true rfl⟩
  rcases List.mem_cons.1 (List.mem_filter.1 ha).1 with rfl | ha
  · exact String.le_refl _
  · exact hb a ha

theorem eq_of_filter (h : log.Pairwise fun a b => a.1 ≤ b.1)
    (h' : log'.Pairwise fun a b => a.1 ≤ b.1)
    (hfilter : ∀ field, log.filter (·.1 = field) = log'.filter (·.1 = field)) : log = log' := by
  induction log generalizing log' with
  | nil =>
    cases log' with
    | nil => rfl
    | cons b log' => simpa using hfilter b.1
  | cons a log ih =>
    cases log' with
    | nil => simpa using hfilter a.1
    | cons b log' =>
      obtain ⟨ha, hlog⟩ := List.pairwise_cons.1 h
      obtain ⟨hb, hlog'⟩ := List.pairwise_cons.1 h'
      have hfield : a.1 = b.1 := String.le_antisymm (le_of_filter ha (hfilter b.1).symm)
        (le_of_filter hb (hfilter a.1))
      have hhead := hfilter a.1
      simp only [List.filter_cons, hfield, decide_true, if_true] at hhead
      obtain ⟨rfl, -⟩ := List.cons.inj hhead
      refine congrArg (a :: ·) (ih hlog hlog' fun field => ?_)
      have htail := hfilter field
      rw [List.filter_cons, List.filter_cons] at htail
      split at htail
      · exact (List.cons.inj htail).2
      · exact htail

def lines (entries : List (String × List String)) : List (String × String) :=
  entries.flatMap fun (field, messages) => messages.map (field, ·)

theorem lines_cons (entry : String × List String) (entries : List (String × List String)) :
    lines (entry :: entries) = entry.2.map (entry.1, ·) ++ lines entries := List.flatMap_cons

theorem mem_lines : a ∈ lines entries ↔ ∃ entry ∈ entries, a.1 = entry.1 ∧ a.2 ∈ entry.2 := by
  obtain ⟨field, message⟩ := a
  simp [lines, eq_comm (a := field), and_comm]

theorem pairwise_lines (h : Ascending entries) :
    (lines entries).Pairwise fun a b => a.1 ≤ b.1 := by
  induction entries with
  | nil => exact .nil
  | cons entry entries ih =>
    obtain ⟨hentry, hentries⟩ := List.pairwise_cons.1 h
    rw [lines_cons, List.pairwise_append, List.pairwise_map]
    refine ⟨List.pairwise_of_forall fun _ _ => String.le_refl _, ih hentries, ?_⟩
    intro a ha b hb
    obtain ⟨message, -, rfl⟩ := List.mem_map.1 ha
    obtain ⟨other, hother, hfield, -⟩ := mem_lines.1 hb
    rw [hfield]
    exact String.not_lt.1 (String.lt_asymm (hentry other hother))

theorem filter_lines (h : Ascending entries) (field : String) :
    (lines entries).filter (·.1 = field) =
      ((entries.lookup field).getD []).map (field, ·) := by
  induction entries with
  | nil => rfl
  | cons entry entries ih =>
    obtain ⟨name, messages⟩ := entry
    obtain ⟨hentry, hentries⟩ := List.pairwise_cons.1 h
    rw [lines_cons, List.filter_append, ih hentries, List.filter_map]
    by_cases hname : field = name
    · subst hname
      rw [lookup_eq_none hentry, List.lookup_cons_self]
      simp [Function.comp_def]
    · rw [lookup_cons_of_ne hname]
      simp [Function.comp_def, Ne.symm hname]

theorem filter_log (log : List (String × String)) (field : String) :
    log.filter (·.1 = field) = ((listed? log field).getD []).map (field, ·) := by
  rw [getD_listed?, List.map_map]
  refine (List.map_id _).symm.trans (List.map_congr_left fun a ha => ?_)
  exact Prod.ext (of_decide_eq_true (List.mem_filter.1 ha).2) rfl

theorem lines_ofLog (log : List (String × String)) : lines (ofLog log).entries = sorted log := by
  have hascending := ascending_ofLog log
  refine eq_of_filter (pairwise_lines hascending) (pairwise_sorted log) fun field => ?_
  have hfield : (ofLog log).entries.lookup field = listed? log field := field?_ofLog log field
  rw [filter_lines hascending, hfield, filter_sorted, filter_log]

def line (a : String × String) : String := a.1 ++ ": " ++ a.2

theorem Display.foldl_put (log : List (String × String)) :
    log.foldl (fun shown a => shown.put a.1 a.2) {} =
      { text := "; ".intercalate (log.map line), first := log.isEmpty : Display } := by
  induction log using List.reverseRecOn with
  | nil => rfl
  | append_singleton log last ih =>
    rw [List.foldl_append, ih, List.map_append]
    cases log with
    | nil => rfl
    | cons a log =>
      have hbefore : (a :: log).map line ≠ [] := List.cons_ne_nil _ _
      have hlast : [last].map line ≠ [] := List.cons_ne_nil _ _
      rw [String.intercalate_append_of_ne_nil hbefore hlast]
      rfl

theorem message_eq (errors : FieldErrors) :
    errors.message = "; ".intercalate ((lines errors.entries).map line) := by
  have hput : errors.entries.foldl Display.putAll {} =
      (lines errors.entries).foldl (fun shown a => shown.put a.1 a.2) {} := by
    rw [lines, List.foldl_flatMap]
    refine List.foldl_ext _ _ _ fun shown entry _ => ?_
    rw [List.foldl_map]
    rfl
  rw [message, hput, Display.foldl_put]

def members (entries : List (String × List String)) : Json.Members :=
  entries.map fun (field, messages) => (field, .sequence (messages.map .text))

theorem spelled_entries (depth : Nat) (entries : List (String × List String)) :
    Json.Members.Spelled (depth + 1)
      (entries.map fun (field, messages) =>
        (field, Json.Write.list (messages.map Json.Write.text)))
      (members entries) := by
  induction entries with
  | nil => exact .nil
  | cons entry entries ih => exact .cons (Json.spelled_texts depth entry.2) ih

theorem get?_members (h : Ascending entries) (field : String) : (members entries).get? field =
    (entries.lookup field).map fun messages => .sequence (messages.map .text) := by
  induction entries with
  | nil => rfl
  | cons entry entries ih =>
    obtain ⟨name, messages⟩ := entry
    obtain ⟨hentry, hentries⟩ := List.pairwise_cons.1 h
    have hcons : members ((name, messages) :: entries) =
        [(name, .sequence (messages.map .text))] ++ members entries := rfl
    rw [hcons, Json.Members.get?_append, ih hentries]
    by_cases hname : field = name
    · subst hname
      rw [lookup_eq_none hentry, List.lookup_cons_self]
      exact List.lookup_cons_self
    · rw [lookup_cons_of_ne hname]
      have hother : Json.Members.get? [(name, .sequence (messages.map .text))] field = none :=
        lookup_cons_of_ne hname
      rw [hother, Option.or_none]

theorem write_eq {errors : FieldErrors} (h : Ascending errors.entries) : errors.write =
    Json.Write.object (errors.fields.map fun field =>
      (field, Json.Write.list (((errors.field? field).getD []).map Json.Write.text))) := by
  rw [write, fields, List.map_map]
  refine congrArg Json.Write.object (List.map_congr_left fun entry hentry => ?_)
  have hfield : errors.field? entry.1 = some entry.2 := lookup_of_mem h hentry
  simp only [Function.comp_apply, hfield, Option.getD_some]

/-- Messages that are added one after another are grouped by their fields, and shown and written in
the order of the fields. -/
theorem grouped (log : List (String × String)) : Grouped log (ofLog log) where
  field := field?_ofLog log
  ascending := List.pairwise_map.2 ((ascending_ofLog log).imp utf8_lt_utf8)
  used field := by rw [mem_fields_iff, field?_ofLog, listed?_ne_none_iff]
  message := by
    rw [message_eq, lines_ofLog]
    rfl
  written := by
    rw [write_eq (ascending_ofLog log)]
    simp only [field?_ofLog]
  decoded := by
    refine ⟨members (ofLog log).entries, Json.readObject_written (spelled_entries _ _), ?_, ?_⟩
    · rw [members, List.map_map]
      rfl
    · intro field
      rw [get?_members (ascending_ofLog log), ← field?_ofLog]
      rfl
  isEmpty := isEmpty_ofLog
  nonempty field := by
    rw [field?_ofLog]
    exact listed?_ne_some_nil log field

example : (ofLog [("title", "b"), ("é", "d"), ("", "a"), ("title", ""), ("z", "c")]).message =
    ": a; title: b; title: ; z: c; é: d" := by decide +kernel

end Bulletin.FieldErrors
