import Bulletin.Store.History

/-!
Programs that take turns over one store. A schedule says whose turn it is, and what the clock shows
then; the calls are noted with the place of the program that made them.
-/

namespace Bulletin

structure Turn where
  program : Nat
  now : Timestamp
  call : Call

structure Round (α : Type) where
  programs : List (StoreProgram α)
  store : Memory := {}
  turns : List Turn := []

namespace Round

variable {α : Type}

def turn (round : Round α) (i : Nat) (now : Timestamp) : Round α :=
  match round.programs[i]? with
  | some (.ask c next) =>
    let (reply, store) := round.store.exec now c
    { programs := round.programs.set i (next reply)
      store
      turns := round.turns ++ [⟨i, now, c⟩] }
  | _ => round

def play (round : Round α) : List (Nat × Timestamp) → Round α
  | [] => round
  | (i, now) :: schedule => (round.turn i now).play schedule

def result? (round : Round α) (i : Nat) : Option α :=
  match round.programs[i]? with
  | some (.done a) => some a
  | _ => none

end Round

namespace Turn

def timed (turn : Turn) : Timestamp × Call := (turn.now, turn.call)

def store (turns : List Turn) : Memory := Memory.after {} (turns.map timed)

end Turn

end Bulletin
