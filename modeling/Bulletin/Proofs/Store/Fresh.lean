import Bulletin.Proofs.Store.Sound

namespace Bulletin

namespace Memory

variable {now : Timestamp} {e : Event} {m m' : Memory}

theorem after_append (m : Memory) (earlier later : List (Timestamp × Call)) :
    m.after (earlier ++ later) = (m.after earlier).after later := by
  induction earlier generalizing m with
  | nil => rfl
  | cons call earlier ih => exact ih _

theorem run_eq_after {α : Type} (now : Timestamp) (program : StoreProgram α) (m : Memory) :
    (m.run now program).2 = m.after (asked now program m) := by
  induction program generalizing m with
  | done a => rfl
  | ask c next ih => exact ih _ _

end Memory

namespace Kind

variable {entity : Entity} {α : Type} {k : Kind entity α} {m : Memory}

section Counters

variable (hk : k.Stepwise)
include hk

theorem last_after (calls : List (Timestamp × Call)) (hroom : k.Room m (m.history calls)) :
    (k.table (m.after calls)).last.toNat =
      (k.table m).last.toNat + ((m.history calls).filterMap k.created?).length := by
  induction calls generalizing m with
  | nil => rfl
  | cons call calls ih =>
    have h := hk call.1 m call.2
    rw [Memory.history, created_cons, List.length_append, ← Nat.add_assoc, ← h.last hroom]
    exact ih (h.room hroom)

/-- New ids are the numbers from the next one on, in the order of creation. -/
theorem numbers_after (calls : List (Timestamp × Call)) (hroom : k.Room m (m.history calls)) :
    ((m.history calls).filterMap k.created?).map (fun a => (k.ident a).number.toNat) =
      List.range' ((k.table m).last.toNat + 1) ((m.history calls).filterMap k.created?).length := by
  induction calls generalizing m with
  | nil => rfl
  | cons call calls ih =>
    have h := hk call.1 m call.2
    have hrest := ih (h.room hroom)
    have hlast := h.last hroom
    rw [Memory.history, created_cons]
    cases hcreated : k.created? ⟨call.2, (m.exec call.1 call.2).1⟩ with
    | none =>
      rw [hcreated] at hlast
      rw [hlast] at hrest
      exact hrest
    | some a =>
      rw [hcreated] at hlast
      rw [hlast] at hrest
      rw [Option.toList_some, List.singleton_append, List.map_cons, List.length_cons,
        List.range'_succ, h.number hroom hcreated, hrest]
      rfl

theorem fresh_after (hzero : (k.table {}).last = 0) (calls : List (Timestamp × Call)) :
    Id.Fresh (((Memory.history {} calls).filterMap k.created?).map k.ident)
      ⟨(k.table (Memory.after {} calls)).last + 1⟩ := by
  intro hlength other hother
  obtain ⟨a, ha, rfl⟩ := List.mem_map.1 hother
  rw [List.length_map] at hlength
  have hroom : k.Room {} (Memory.history {} calls) := by
    rw [Room, hzero, UInt64.toNat_zero]
    omega
  have hlast := last_after hk calls hroom
  have hnumber : (k.ident a).number.toNat ∈ List.range' _ _ :=
    numbers_after hk calls hroom ▸ List.mem_map_of_mem ha
  rw [List.mem_range'_1, hzero, UInt64.toNat_zero] at hnumber
  rw [hzero, UInt64.toNat_zero] at hlast
  rw [UInt64.lt_iff_toNat_lt, UInt64.toNat_add, UInt64.toNat_one, Nat.mod_eq_of_lt (by omega)]
  omega

end Counters

end Kind

end Bulletin
