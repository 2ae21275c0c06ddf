import Bulletin.Proofs.Store.Fresh
import Bulletin.Store.Kind

namespace Bulletin

namespace Kind

variable {entity : Entity} {α : Type} {k : Kind entity α}
variable {now : Timestamp} {e : Event} {m m' : Memory} {a b c : α} {h : History}

theorem Holds.unique (ha : k.Holds m a) (hb : k.Holds m b) (hid : k.ident a = k.ident b) :
    a = b := by
  rw [Holds, hid] at ha
  exact Option.some.inj (ha.symm.trans hb)

theorem Step.follows (h : k.Step now m e m') (hm : (k.table m).Keyed k.ident) :
    k.Follows m now e m' where
  created _ ha := h.of_created ha
  changed a ha := by
    obtain ⟨hheld, old, hold, hid, hcreated, hupdated⟩ := h.of_changed hm ha
    refine ⟨hheld, old, hold, hid.symm, hcreated.symm, ?_⟩
    rw [hupdated]
    exact Timestamp.lt_after _ _
  kept a ha hcreated hchanged := by
    obtain h | h | h := h.mem ((h.keyed hm).get?_eq_some_iff.1 ha).1
    · exact absurd h hcreated
    · exact absurd h hchanged
    · exact hm.get?_eq_some_iff.2 ⟨h, rfl⟩

theorem Becomes.refl (a : α) : k.Becomes a [] a where
  ident := rfl
  createdAt := rfl
  unchanged _ := rfl
  changed := nofun

theorem Becomes.le (hba : k.Becomes b h a) : (k.updatedAt b).instant ≤ (k.updatedAt a).instant := by
  by_cases hchange : ∃ c ∈ h.filterMap k.changed?, k.ident c = k.ident b
  · obtain ⟨c, hc, hid⟩ := hchange
    obtain ⟨hlt, hle⟩ := hba.changed c hc hid
    exact Int.le_trans (Int.le_of_lt hlt) hle
  · have hsame := hba.unchanged fun c hc hid => hchange ⟨c, hc, hid⟩
    exact Int.le_of_eq (congrArg (fun c => (k.updatedAt c).instant) hsame.symm)

theorem mem_changed_cons : c ∈ List.filterMap k.changed? (e :: h) ↔
    k.changed? e = some c ∨ c ∈ h.filterMap k.changed? := by
  simp [List.mem_filterMap]

section Cons

variable (hfollows : k.Follows m now e m') (hba : k.Becomes b h a)
include hfollows hba

theorem Becomes.of_changed (hb : k.changed? e = some b) :
    ∃ old, k.Holds m old ∧ k.Becomes old (e :: h) a := by
  obtain ⟨-, old, hold, hid, hcreated, hlt⟩ := hfollows.changed b hb
  refine ⟨old, hold, ?_, ?_, ?_, ?_⟩
  · rw [hba.ident, hid]
  · rw [hba.createdAt, hcreated]
  · intro hnone
    exact absurd hid.symm (hnone b (mem_changed_cons.2 (.inl hb)))
  · intro c hc hcid
    rcases mem_changed_cons.1 hc with hc | hc
    · obtain rfl := Option.some.inj (hb.symm.trans hc)
      exact ⟨hlt, hba.le⟩
    · obtain ⟨hbc, hca⟩ := hba.changed c hc (hcid.trans hid)
      exact ⟨Int.lt_trans hlt hbc, hca⟩

theorem Becomes.of_kept (hheld : k.Holds m' b) (hb : k.changed? e ≠ some b) :
    k.Becomes b (e :: h) a where
  ident := hba.ident
  createdAt := hba.createdAt
  unchanged hnone := hba.unchanged fun c hc => hnone c (mem_changed_cons.2 (.inr hc))
  changed c hc hid := by
    rcases mem_changed_cons.1 hc with hc | hc
    · have hcheld := (hfollows.changed c hc).1
      exact absurd (hcheld.unique hheld hid ▸ hc) hb
    · exact hba.changed c hc hid

end Cons

section Stepwise

variable (hk : k.Stepwise) (hm : (k.table m).Keyed k.ident)
include hk hm

theorem timely_after (calls : List (Timestamp × Call)) (ha : k.Holds (m.after calls) a) :
    (∃ b, k.Holds m b ∧ k.Becomes b (m.history calls) a) ∨ k.BornIn m calls a := by
  induction calls generalizing m with
  | nil => exact .inl ⟨a, ha, .refl a⟩
  | cons call calls ih =>
    obtain ⟨now, c⟩ := call
    have hstep := hk now m c
    have hfollows := hstep.follows hm
    obtain ⟨b, hb, hba⟩ | ⟨earlier, now', c', later, b, rfl, hborn⟩ := ih (hstep.keyed hm) ha
    · by_cases hcreated : k.created? ⟨c, (m.exec now c).1⟩ = some b
      · obtain ⟨-, hcreatedAt, hupdatedAt⟩ := hfollows.created b hcreated
        exact .inr ⟨[], now, c, calls, b, rfl, hcreated, hcreatedAt, hupdatedAt, hba⟩
      by_cases hchanged : k.changed? ⟨c, (m.exec now c).1⟩ = some b
      · exact .inl (hba.of_changed hfollows hchanged)
      · exact .inl ⟨b, hfollows.kept b hb hcreated hchanged, hba.of_kept hfollows hb hchanged⟩
    · exact .inr ⟨(now, c) :: earlier, now', c', later, b, rfl, hborn⟩

theorem timely : k.Timely m where
  call now c := (hk now m c).follows hm
  calls calls _ := timely_after hk hm calls

end Stepwise

/-- A change gives a later time even if the clock stands still or goes back; a time of creation
stays for good, and no other call changes a time. -/
theorem timely_of_calls (calls : List (Timestamp × Call)) :
    users.Timely (Memory.after {} calls) ∧ posts.Timely (Memory.after {} calls) := by
  have hm := Memory.linked_after Memory.linked_empty calls
  exact ⟨timely stepwise_users hm.users, timely stepwise_posts hm.posts⟩

end Kind

end Bulletin
