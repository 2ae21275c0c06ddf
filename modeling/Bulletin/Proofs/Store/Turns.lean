import Bulletin.Proofs.Store.Fresh
import Bulletin.Store.Turns

/-!
One program among others that take turns with it. What is shown of the program, whatever the others
do in between, holds in every run of all of them.
-/

namespace Bulletin

variable {α β : Type}

namespace Round

theorem turn_of_ask {round : Round α} {i : Nat} {c : Call} {next : c.Reply → StoreProgram α}
    (h : round.programs[i]? = some (.ask c next)) (now : Timestamp) : round.turn i now =
      { programs := round.programs.set i (next (round.store.exec now c).1)
        store := (round.store.exec now c).2
        turns := round.turns ++ [⟨i, now, c⟩] } := by
  rw [turn, h]

theorem turn_cases (round : Round α) (i : Nat) (now : Timestamp) :
    round.turn i now = round ∨ ∃ c next, round.programs[i]? = some (.ask c next) := by
  unfold turn
  split
  · exact .inr ⟨_, _, ‹_›⟩
  · exact .inl rfl

theorem play_of_interleaved {programs programs' : List (StoreProgram α)} {m m' : Memory}
    {calls : List (Timestamp × Call)} (h : Interleaved programs m calls programs' m')
    (noted : List Turn) : ∃ schedule turns, turns.map Turn.timed = calls ∧
      play ⟨programs, m, noted⟩ schedule = ⟨programs', m', noted ++ turns⟩ := by
  induction h generalizing noted with
  | @refl programs m => exact ⟨[], [], rfl, by rw [play, List.append_nil]⟩
  | @ask programs _ m _ c next calls i now hnext _ ih =>
    obtain ⟨schedule, turns, rfl, hplay⟩ := ih (noted ++ [⟨i, now, c⟩])
    refine ⟨(i, now) :: schedule, ⟨i, now, c⟩ :: turns, rfl, ?_⟩
    rw [play, turn_of_ask hnext, hplay, List.append_assoc]
    rfl

theorem interleaved_of_play (round : Round α) (schedule : List (Nat × Timestamp)) :
    ∃ turns, (round.play schedule).turns = round.turns ++ turns ∧
      Interleaved round.programs round.store (turns.map Turn.timed)
        (round.play schedule).programs (round.play schedule).store := by
  induction schedule generalizing round with
  | nil => exact ⟨[], (List.append_nil _).symm, .refl⟩
  | cons entry schedule ih =>
    obtain ⟨i, now⟩ := entry
    rcases round.turn_cases i now with hpass | ⟨c, next, hnext⟩
    · rw [play, hpass]
      exact ih round
    · obtain ⟨turns, hturns, hrest⟩ := ih (round.turn i now)
      rw [turn_of_ask hnext] at hturns hrest
      rw [play, turn_of_ask hnext]
      exact ⟨⟨i, now, c⟩ :: turns, hturns.trans (List.append_assoc _ _ _), .ask i now hnext hrest⟩

/-- The interleavings of programs are what schedules of turns make of them. -/
theorem interleaved_iff {programs programs' : List (StoreProgram α)} {m m' : Memory}
    {calls : List (Timestamp × Call)} : Interleaved programs m calls programs' m' ↔
      ∃ schedule turns, turns.map Turn.timed = calls ∧
        play ⟨programs, m, []⟩ schedule = ⟨programs', m', turns⟩ := by
  constructor
  · intro h
    exact play_of_interleaved h []
  · rintro ⟨schedule, turns, rfl, hplay⟩
    obtain ⟨made, hmade, h⟩ := interleaved_of_play ⟨programs, m, []⟩ schedule
    rw [hplay] at hmade h
    cases hmade
    exact h

end Round

/-- The program ends in what is asked for, whatever calls others make before each of its own. -/
def Amid (i : Nat) (P : α → List Turn → Prop) : StoreProgram α → List Turn → Prop
  | .done a, turns => P a turns
  | .ask c next, turns => ∀ others now, Amid i P
      (next ((Turn.store (turns ++ others)).exec now c).1) (turns ++ others ++ [⟨i, now, c⟩])

def Stable (P : List Turn → Prop) : Prop := ∀ turns more, P turns → P (turns ++ more)

namespace Amid

variable {i : Nat} {P Q : α → List Turn → Prop} {program : StoreProgram α} {turns : List Turn}

theorem imp (h : Amid i P program turns) (hPQ : ∀ a turns, P a turns → Q a turns) :
    Amid i Q program turns := by
  induction program generalizing turns with
  | done a => exact hPQ a turns h
  | ask c next ih => exact fun others now => ih _ (h others now)

theorem bind {f : α → StoreProgram β} {R : β → List Turn → Prop}
    (h : Amid i (fun a turns => Amid i R (f a) turns) program turns) :
    Amid i R (program.bind f) turns := by
  induction program generalizing turns with
  | done a => exact h
  | ask c next ih => exact fun others now => ih _ (h others now)

theorem later (hP : ∀ a, Stable (P a)) (h : Amid i P program turns) (others : List Turn) :
    Amid i P program (turns ++ others) := by
  cases program with
  | done a => exact hP a turns others h
  | ask c next =>
    intro others' now
    have hnext := h (others ++ others') now
    rwa [← List.append_assoc] at hnext

end Amid

theorem Turn.store_concat (turns : List Turn) (turn : Turn) :
    store (turns ++ [turn]) = ((store turns).exec turn.now turn.call).2 := by
  rw [store, List.map_append, Memory.after_append]
  rfl

namespace Round

variable {P : Nat → α → List Turn → Prop}

/-- The store is where the turns have led, and each program is on its way. -/
structure Underway (P : Nat → α → List Turn → Prop) (round : Round α) : Prop where
  store : round.store = Turn.store round.turns
  programs : ∀ i program, round.programs[i]? = some program → Amid i (P i) program round.turns

theorem Underway.turn (hP : ∀ i a, Stable (P i a)) {round : Round α} (h : round.Underway P)
    (i : Nat) (now : Timestamp) : (round.turn i now).Underway P := by
  rcases round.turn_cases i now with hpass | ⟨c, next, hnext⟩
  · rw [hpass]
    exact h
  · rw [turn_of_ask hnext]
    constructor
    · dsimp only
      rw [Turn.store_concat, h.store]
    · -- The program whose turn it is goes on. For each other one, someone else has made a call.
      intro j program hprogram
      rw [List.getElem?_set] at hprogram
      split at hprogram
      case isTrue hij =>
        subst hij
        split at hprogram
        · cases hprogram
          have hamid := h.programs i _ hnext [] now
          rw [List.append_nil] at hamid
          rw [h.store]
          exact hamid
        · cases hprogram
      case isFalse => exact (h.programs j program hprogram).later (hP j) _

theorem Underway.play (hP : ∀ i a, Stable (P i a)) {round : Round α} (h : round.Underway P)
    (schedule : List (Nat × Timestamp)) : (round.play schedule).Underway P := by
  induction schedule generalizing round with
  | nil => exact h
  | cons entry schedule ih => exact ih (h.turn hP entry.1 entry.2)

theorem Underway.result {round : Round α} (h : round.Underway P) {i : Nat} {a : α}
    (hresult : round.result? i = some a) : P i a round.turns := by
  unfold result? at hresult
  split at hresult
  case h_1 hdone =>
    cases hresult
    exact h.programs i _ hdone
  case h_2 => cases hresult

end Round

end Bulletin
