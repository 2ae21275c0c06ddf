import Bulletin.Proofs.Store.Fresh

namespace Bulletin

variable {entity : Entity} {α : Type}

namespace Table

/-- The id was given out, and no row has it. -/
structure Spent (id : Id entity) (t : Table entity α) : Prop where
  passed : id.number ≤ t.last
  absent : ∀ row ∈ t.rows, row.1 ≠ id

variable {t t' : Table entity α} {id : Id entity}

theorem Spent.contains (h : t.Spent id) : t.contains id = false := by
  rw [← Bool.not_eq_true, contains_iff_mem]
  rintro ⟨a, ha⟩
  exact h.absent _ ha rfl

theorem Spent.get? (h : t.Spent id) : t.get? id = none := by
  simpa [Table.contains] using h.contains

theorem Spent.mono (h : t.Spent id) (hlast : t'.last = t.last)
    (hkeys : ∀ row ∈ t'.rows, ∃ old ∈ t.rows, row.1 = old.1) : t'.Spent id where
  passed := hlast ▸ h.passed
  absent row hrow := by
    obtain ⟨old, hold, hkey⟩ := hkeys row hrow
    exact hkey ▸ h.absent old hold

theorem Spent.erase (h : t.Spent id) (key : Id entity) : (t.erase key).Spent id :=
  h.mono rfl fun row hrow => ⟨row, List.mem_of_mem_filter hrow, rfl⟩

theorem Spent.filter (h : t.Spent id) (p : α → Bool) : (t.filter p).Spent id :=
  h.mono rfl fun row hrow => ⟨row, List.mem_of_mem_filter hrow, rfl⟩

theorem Spent.replace (h : t.Spent id) (key : Id entity) (a : α) : (t.replace key a).Spent id := by
  refine h.mono rfl fun row hrow => ?_
  obtain ⟨old, hold, rfl⟩ := List.mem_map.1 hrow
  refine ⟨old, hold, ?_⟩
  dsimp only
  split <;> rfl

theorem Spent.add (h : t.Spent id) (hroom : t.last.toNat + 1 < 2 ^ 64) (row : Id entity → α) :
    (t.add row).2.Spent id := by
  have hpassed := UInt64.le_iff_toNat_le.1 h.passed
  have hnext := toNat_next hroom
  constructor
  · refine UInt64.le_iff_toNat_le.2 ?_
    change _ ≤ (t.last + 1).toNat
    omega
  · intro r hr
    rcases mem_place hr with rfl | hr
    · rintro rfl
      dsimp only at hpassed
      omega
    · exact h.absent r hr

section Keyed

variable {ident : α → Id entity} (hk : t.Keyed ident) (hn : t.Numbered ident)
include hk hn

theorem spent_erase (h : t.contains id) : (t.erase id).Spent id where
  passed := by
    obtain ⟨a, ha, rfl⟩ := hk.contains_iff.1 h
    exact (hn a ha).2
  absent row hrow := by simpa using (List.mem_filter.1 hrow).2

theorem spent_filter {p : α → Bool} {a : α} (ha : a ∈ t.values) (hp : p a = false) :
    (t.filter p).Spent (ident a) where
  passed := (hn a ha).2
  absent row hrow := by
    obtain ⟨hrow, hkept⟩ := List.mem_filter.1 hrow
    rw [hk.keys row hrow]
    intro hid
    have hsame := List.inj_on_of_nodup_map hk.nodup_ident (List.mem_map_of_mem hrow) ha hid
    rw [hsame, hp] at hkept
    cases hkept

end Keyed

end Table

namespace Kind

variable {k : Kind entity α} {now : Timestamp} {e : Event} {m m' : Memory} {later : History}
variable {id : Id entity}

theorem Step.spent (h : k.Step now m e m') (hroom : k.Room m (e :: later))
    (hs : (k.table m).Spent id) : (k.table m').Spent id := by
  cases h with
  | kept _ _ ht =>
    rw [ht]
    exact hs
  | created hcreated _ ht =>
    rw [ht]
    exact hs.add (hroom.next hcreated) _
  | changed _ _ _ ht =>
    rw [ht]
    exact hs.replace _ _
  | erased _ _ ht =>
    rw [ht]
    exact hs.erase _
  | filtered _ _ ht =>
    rw [ht]
    exact hs.filter _

theorem spent_after (hk : k.Stepwise) (calls : List (Timestamp × Call))
    (hroom : k.Room m (m.history calls)) (hs : (k.table m).Spent id) :
    (k.table (m.after calls)).Spent id := by
  induction calls generalizing m with
  | nil => exact hs
  | cons call calls ih =>
    have h := hk call.1 m call.2
    exact ih (h.room hroom) (h.spent hroom hs)

end Kind

end Bulletin
