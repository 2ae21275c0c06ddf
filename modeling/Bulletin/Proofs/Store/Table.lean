import Mathlib.Algebra.Group.Nat.Defs
import Mathlib.Data.List.Nodup
import Bulletin.Store.Table

/-!
Tables whose rows stand under their own ids. Such a table is known by its values: every operation
is one on the list of values, which stays in the order of ids.
-/

namespace Bulletin.Table

variable {entity : Entity} {α : Type} {ident : α → Id entity} {t : Table entity α}

/-- Every row stands under the id of its value, in ascending order. -/
structure Keyed (ident : α → Id entity) (t : Table entity α) : Prop where
  keys : ∀ row ∈ t.rows, row.1 = ident row.2
  ascending : t.rows.Pairwise fun a b => a.1.number < b.1.number

theorem mem_place {id : Id entity} {a : α} {rows : List (Id entity × α)} {row : Id entity × α}
    (h : row ∈ place id a rows) : row = (id, a) ∨ row ∈ rows := by
  induction rows with
  | nil => exact .inl (List.mem_singleton.1 h)
  | cons head rest ih =>
    obtain ⟨key, b⟩ := head
    simp only [place] at h
    split at h
    · simpa using h
    split at h
    · rcases List.mem_cons.1 h with h | h
      · exact .inl h
      · exact .inr (List.mem_cons_of_mem _ h)
    · rcases List.mem_cons.1 h with h | h
      · exact .inr (h ▸ List.mem_cons_self)
      · exact (ih h).imp_right (List.mem_cons_of_mem _)

theorem ascending_place {id : Id entity} {a : α} {rows : List (Id entity × α)}
    (h : rows.Pairwise fun a b => a.1.number < b.1.number) :
    (place id a rows).Pairwise fun a b => a.1.number < b.1.number := by
  induction rows with
  | nil => exact List.pairwise_singleton _ _
  | cons head rest ih =>
    obtain ⟨key, b⟩ := head
    obtain ⟨hhead, hrest⟩ := List.pairwise_cons.1 h
    simp only [place]
    split
    case isTrue hlt =>
      refine List.pairwise_cons.2 ⟨fun row hrow => ?_, h⟩
      rcases List.mem_cons.1 hrow with rfl | hrow
      · exact hlt
      · exact UInt64.lt_trans hlt (hhead row hrow)
    case isFalse hge =>
      split
      case isTrue heq => exact List.pairwise_cons.2 ⟨heq ▸ hhead, hrest⟩
      case isFalse hne =>
        have hlt : key.number < id.number := by
          have : id.number ≠ key.number := fun h => hne (by cases id; cases key; simp_all)
          grind
        refine List.pairwise_cons.2 ⟨fun row hrow => ?_, ih hrest⟩
        rcases mem_place hrow with rfl | hrow
        · exact hlt
        · exact hhead row hrow

theorem place_eq_append {id : Id entity} {a : α} {rows : List (Id entity × α)}
    (h : ∀ row ∈ rows, row.1.number < id.number) : place id a rows = rows ++ [(id, a)] := by
  induction rows with
  | nil => rfl
  | cons head rest ih =>
    obtain ⟨key, b⟩ := head
    have hlt : key.number < id.number := h _ List.mem_cons_self
    have hne : id ≠ key := by rintro rfl; exact UInt64.lt_irrefl _ hlt
    simp only [place, UInt64.not_lt.2 (UInt64.le_of_lt hlt), hne, if_false, List.cons_append]
    rw [ih fun row hrow => h row (List.mem_cons_of_mem _ hrow)]

theorem mem_place_of_mem {id key : Id entity} {a b : α} {rows : List (Id entity × α)}
    (h : (key, b) ∈ rows) : ∃ c, (key, c) ∈ place id a rows := by
  induction rows with
  | nil => cases h
  | cons head rest ih =>
    obtain ⟨key', b'⟩ := head
    simp only [place]
    split
    · exact ⟨b, List.mem_cons_of_mem _ h⟩
    split
    case isTrue heq =>
      subst heq
      rcases List.mem_cons.1 h with h | h
      · cases h
        exact ⟨a, List.mem_cons_self⟩
      · exact ⟨b, List.mem_cons_of_mem _ h⟩
    case isFalse =>
      rcases List.mem_cons.1 h with h | h
      · exact ⟨b, h ▸ List.mem_cons_self⟩
      · obtain ⟨c, hc⟩ := ih h
        exact ⟨c, List.mem_cons_of_mem _ hc⟩

theorem contains_iff_mem {id : Id entity} : t.contains id ↔ ∃ a, (id, a) ∈ t.rows := by
  rw [contains, get?, List.lookup_isSome_iff]
  constructor
  · rintro ⟨⟨key, a⟩, ha, hkey⟩
    exact ⟨a, eq_of_beq hkey ▸ ha⟩
  · rintro ⟨a, ha⟩
    exact ⟨_, ha, beq_self_eq_true _⟩

theorem contains_add {row : Id entity → α} {id : Id entity} (h : t.contains id) :
    (t.add row).2.contains id := by
  obtain ⟨a, ha⟩ := contains_iff_mem.1 h
  exact contains_iff_mem.2 (mem_place_of_mem ha)

theorem contains_replace {id key : Id entity} {a : α} (h : t.contains id) :
    (t.replace key a).contains id := by
  obtain ⟨b, hb⟩ := contains_iff_mem.1 h
  refine contains_iff_mem.2 ⟨if id = key then a else b, List.mem_map.2 ⟨_, hb, ?_⟩⟩
  by_cases hid : id = key <;> simp [hid]

theorem contains_erase {id key : Id entity} (h : t.contains id) (hne : id ≠ key) :
    (t.erase key).contains id := by
  obtain ⟨a, ha⟩ := contains_iff_mem.1 h
  exact contains_iff_mem.2 ⟨a, List.mem_filter.2 ⟨ha, by simpa using hne⟩⟩

theorem erase_of_not_contains {id : Id entity} (h : t.contains id = false) : t.erase id = t := by
  have hne : ∀ row ∈ t.rows, row.1 ≠ id := by
    rintro ⟨key, a⟩ hrow rfl
    rw [contains_iff_mem.2 ⟨a, hrow⟩] at h
    cases h
  rw [erase, List.filter_eq_self.2 (by simpa using hne)]

theorem get?_add (row : Id entity → α) :
    (t.add row).2.get? ⟨t.last + 1⟩ = some (row ⟨t.last + 1⟩) := by
  change (place _ _ t.rows).lookup _ = _
  induction t.rows with
  | nil => simp [place]
  | cons head rest ih =>
    obtain ⟨key, b⟩ := head
    simp only [place]
    split
    · simp
    split
    · simp
    case isFalse hne => rw [List.lookup_cons, beq_false_of_ne hne, ih]

theorem get?_replace {id : Id entity} {old : α} (h : t.get? id = some old) (a : α) :
    (t.replace id a).get? id = some a := by
  obtain ⟨old, hold⟩ := contains_iff_mem.1 (Option.isSome_of_eq_some h)
  rw [get?, replace]
  generalize t.rows = rows at hold
  induction rows with
  | nil => cases hold
  | cons head rest ih =>
    obtain ⟨key, b⟩ := head
    by_cases hkey : key = id
    · simp [hkey]
    · have hrest : (id, old) ∈ rest := by
        rcases List.mem_cons.1 hold with heq | hrest
        · exact absurd (congrArg Prod.fst heq).symm hkey
        · exact hrest
      simpa [hkey, List.lookup_cons, beq_false_of_ne (Ne.symm hkey)] using ih hrest

theorem get?_replace_of_ne {id other : Id entity} (h : other ≠ id) (a : α) :
    (t.replace id a).get? other = t.get? other := by
  rw [get?, get?, replace]
  induction t.rows with
  | nil => rfl
  | cons head rest ih =>
    obtain ⟨key, b⟩ := head
    by_cases hkey : key = id
    · subst hkey
      simp [List.lookup_cons, beq_false_of_ne h, ih]
    · simp [List.lookup_cons, hkey, ih]

section Keyed

variable (h : t.Keyed ident)
include h

theorem Keyed.rows_eq : t.rows = t.values.map fun a => (ident a, a) := by
  rw [values, List.map_map]
  refine (List.map_id _).symm.trans (List.map_congr_left fun row hrow => ?_)
  exact Prod.ext (h.keys row hrow) rfl

theorem Keyed.values_ascending :
    t.values.Pairwise fun a b => (ident a).number < (ident b).number := by
  have := h.ascending
  rwa [h.rows_eq, List.pairwise_map] at this

theorem Keyed.nodup_ident : (t.values.map ident).Nodup := by
  refine List.pairwise_map.2 (h.values_ascending.imp fun hlt heq => ?_)
  rw [heq] at hlt
  exact UInt64.lt_irrefl _ hlt

theorem Keyed.get?_eq_find? (id : Id entity) : t.get? id = t.values.find? (ident · = id) := by
  rw [get?, h.rows_eq]
  induction t.values with
  | nil => rfl
  | cons a rest ih =>
    by_cases ha : ident a = id
    · simp [ha]
    · simp [List.lookup_cons, ha, beq_false_of_ne (Ne.symm ha), ih]

theorem Keyed.get?_eq_some_iff {id : Id entity} {a : α} :
    t.get? id = some a ↔ a ∈ t.values ∧ ident a = id := by
  rw [h.get?_eq_find?]
  constructor
  · intro hfind
    exact ⟨List.mem_of_find?_eq_some hfind, by simpa using List.find?_some hfind⟩
  · rintro ⟨ha, rfl⟩
    obtain ⟨b, hb⟩ : ∃ b, t.values.find? (ident · = ident a) = some b :=
      Option.isSome_iff_exists.1 (List.find?_isSome.2 ⟨a, ha, by simp⟩)
    have hident : ident b = ident a := by simpa using List.find?_some hb
    rw [hb, List.inj_on_of_nodup_map h.nodup_ident (List.mem_of_find?_eq_some hb) ha hident]

theorem Keyed.filter_eq (id : Id entity) :
    t.values.filter (ident · = id) = (t.get? id).toList := by
  have hnodup := h.nodup_ident
  rw [h.get?_eq_find?]
  generalize t.values = values at hnodup ⊢
  induction values with
  | nil => rfl
  | cons a rest ih =>
    rw [List.map_cons, List.nodup_cons] at hnodup
    by_cases ha : ident a = id
    · have hrest : ∀ b ∈ rest, ¬ ident b = id := by
        intro b hb hid
        exact hnodup.1 (List.mem_map.2 ⟨b, hb, hid.trans ha.symm⟩)
      simpa [ha] using hrest
    · simp [ha, ih hnodup.2]

theorem Keyed.contains_iff {id : Id entity} : t.contains id ↔ ∃ a ∈ t.values, ident a = id := by
  simp [contains, Option.isSome_iff_exists, h.get?_eq_some_iff]

theorem Keyed.erase (id : Id entity) : (t.erase id).Keyed ident where
  keys row hrow := h.keys row (List.mem_of_mem_filter hrow)
  ascending := h.ascending.filter _

theorem Keyed.filter (p : α → Bool) : (t.filter p).Keyed ident where
  keys row hrow := h.keys row (List.mem_of_mem_filter hrow)
  ascending := h.ascending.filter _

theorem Keyed.replace {id : Id entity} {a : α} (ha : ident a = id) :
    (t.replace id a).Keyed ident where
  keys row hrow := by
    obtain ⟨⟨key, b⟩, hold, rfl⟩ := List.mem_map.1 hrow
    by_cases hkey : key = id
    · simp [hkey, ha]
    · simpa [hkey] using h.keys _ hold
  ascending := by
    refine List.pairwise_map.2 (h.ascending.imp ?_)
    rintro ⟨key, _⟩ ⟨key', _⟩ hlt
    dsimp only
    split <;> split <;> exact hlt

theorem Keyed.add {row : Id entity → α} (hrow : ∀ id, ident (row id) = id) :
    (t.add row).2.Keyed ident where
  keys r hr := by
    rcases mem_place hr with rfl | hr
    · exact (hrow _).symm
    · exact h.keys r hr
  ascending := ascending_place h.ascending

theorem Keyed.values_erase (id : Id entity) :
    (t.erase id).values = t.values.filter (ident · ≠ id) := by
  rw [values, Table.erase, h.rows_eq, List.filter_map, List.map_map]
  exact List.map_id _

theorem Keyed.values_replace {id : Id entity} {a : α} {f : α → α} (ha : t.get? id = some a) :
    (t.replace id (f a)).values = t.values.map fun b => if ident b = id then f b else b := by
  obtain ⟨hmem, hid⟩ := h.get?_eq_some_iff.1 ha
  rw [values, Table.replace, h.rows_eq, List.map_map, List.map_map]
  refine List.map_congr_left fun b hb => ?_
  by_cases hb' : ident b = id
  · have : b = a := List.inj_on_of_nodup_map h.nodup_ident hb hmem (hb'.trans hid.symm)
    simp [this, hid]
  · simp [hb']

theorem Keyed.mem_values_replace {id : Id entity} {a : α} {f : α → α} (ha : t.get? id = some a) :
    f a ∈ (t.replace id (f a)).values := by
  rw [h.values_replace ha]
  obtain ⟨hmem, hid⟩ := h.get?_eq_some_iff.1 ha
  exact List.mem_map.2 ⟨a, hmem, if_pos hid⟩

end Keyed

theorem values_filter (p : α → Bool) : (t.filter p).values = t.values.filter p := by
  simp [values, filter, List.filter_map, Function.comp_def]

theorem mem_values_add {row : Id entity → α} {a : α} (ha : a ∈ (t.add row).2.values) :
    a = row ⟨t.last + 1⟩ ∨ a ∈ t.values := by
  obtain ⟨r, hr, rfl⟩ := List.mem_map.1 ha
  rcases mem_place hr with rfl | hr
  · exact .inl rfl
  · exact .inr (List.mem_map_of_mem hr)

theorem mem_values_of_mem_replace {id : Id entity} {a b : α} (h : b ∈ (t.replace id a).values) :
    b = a ∨ b ∈ t.values := by
  obtain ⟨r, hr, rfl⟩ := List.mem_map.1 h
  obtain ⟨⟨key, old⟩, hold, rfl⟩ := List.mem_map.1 hr
  by_cases hkey : key = id
  · exact .inl (by simp [hkey])
  · refine .inr ?_
    dsimp only
    rw [if_neg hkey]
    exact List.mem_map_of_mem hold

theorem mem_values_of_mem_erase {id : Id entity} {a : α} (h : a ∈ (t.erase id).values) :
    a ∈ t.values := by
  obtain ⟨row, hrow, rfl⟩ := List.mem_map.1 h
  exact List.mem_map_of_mem (List.mem_of_mem_filter hrow)

theorem mem_values_of_mem_filter {p : α → Bool} {a : α} (h : a ∈ (t.filter p).values) :
    a ∈ t.values := by
  rw [values_filter] at h
  exact List.mem_of_mem_filter h

def Numbered (ident : α → Id entity) (t : Table entity α) : Prop :=
  ∀ a ∈ t.values, 1 ≤ (ident a).number ∧ (ident a).number ≤ t.last

section Numbered

variable {row : Id entity → α} (h : t.Keyed ident) (hn : t.Numbered ident)
  (hroom : t.last.toNat + 1 < 2 ^ 64)

theorem Numbered.erase (hn : t.Numbered ident) (id : Id entity) : (t.erase id).Numbered ident :=
  fun a ha => hn a (mem_values_of_mem_erase ha)

theorem Numbered.filter (hn : t.Numbered ident) (p : α → Bool) : (t.filter p).Numbered ident :=
  fun a ha => hn a (mem_values_of_mem_filter ha)

include hroom in
theorem toNat_next : (t.last + 1).toNat = t.last.toNat + 1 := by
  rw [UInt64.toNat_add, UInt64.toNat_one, Nat.mod_eq_of_lt hroom]

include h hn hroom

theorem Numbered.values_add : (t.add row).2.values = t.values ++ [row ⟨t.last + 1⟩] := by
  have hnext : ∀ r ∈ t.rows, r.1.number < t.last + 1 := fun r hr => by
    have hle := UInt64.le_iff_toNat_le.1 (hn r.2 (List.mem_map_of_mem hr)).2
    rw [h.keys r hr, UInt64.lt_iff_toNat_lt, toNat_next hroom]
    exact Nat.lt_succ_of_le hle
  simp [add, values, place_eq_append hnext]

theorem Numbered.add (hrow : ∀ id, ident (row id) = id) : (t.add row).2.Numbered ident := by
  intro a ha
  rw [hn.values_add h hroom] at ha
  have hnext := toNat_next hroom
  rcases List.mem_append.1 ha with ha | ha
  · have hle := UInt64.le_iff_toNat_le.1 (hn a ha).2
    refine ⟨(hn a ha).1, UInt64.le_iff_toNat_le.2 ?_⟩
    show _ ≤ (t.last + 1).toNat
    omega
  · rw [List.mem_singleton.1 ha, hrow]
    refine ⟨UInt64.le_iff_toNat_le.2 ?_, UInt64.le_refl _⟩
    show 1 ≤ (t.last + 1).toNat
    omega

end Numbered

theorem Numbered.replace (h : t.Keyed ident) (hn : t.Numbered ident) {id : Id entity} {a old : α}
    (hold : t.get? id = some old) (ha : ident a = ident old) : (t.replace id a).Numbered ident := by
  intro b hb
  rcases mem_values_of_mem_replace hb with rfl | hb
  · rw [ha]
    exact hn old (h.get?_eq_some_iff.1 hold).1
  · exact hn b hb

end Bulletin.Table
