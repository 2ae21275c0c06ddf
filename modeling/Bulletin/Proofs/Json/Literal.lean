import Bulletin.Json.Literal
import Bulletin.Json.Write
import Bulletin.Proofs.Text.Numeral

namespace Bulletin.Json.Literal

variable {state next : State} {bytes done rest text : Bytes}

def feed : State → Bytes → Option (State × Bytes)
  | state, [] => some (state, [])
  | state, b :: rest =>
    if state = .plain ∧ b = Ascii.quote then none
    else match step state b with
      | .ok (next, bytes) => (feed next rest).map fun (last, more) => (last, bytes ++ more)
      | .error _ => none

theorem run_of_feed (h : feed state text = some (next, bytes)) :
    run done state (text ++ rest) = run (bytes.reverse ++ done) next rest := by
  induction text generalizing state bytes done with
  | nil =>
    cases h
    rfl
  | cons b text ih =>
    rw [feed] at h
    rw [List.cons_append, run]
    split at h
    case isTrue => cases h
    case isFalse hopen =>
      rw [if_neg hopen]
      cases hstep : step state b with
      | error cause =>
        rw [hstep] at h
        cases h
      | ok part =>
        rw [hstep] at h
        obtain ⟨⟨last, more⟩, hmore, heq⟩ := Option.map_eq_some_iff.1 h
        cases heq
        dsimp only
        rw [ih hmore, List.reverse_append, List.append_assoc]

theorem feed_escape (b : UInt8) : feed .plain (Write.escape b) = some (.plain, [b]) := by
  revert b
  apply forall_byte
  decide +kernel

theorem run_escape (bytes : Bytes) :
    run done .plain (bytes.flatMap Write.escape ++ Ascii.quote :: rest) =
      .ok (done.reverse ++ bytes, rest) := by
  induction bytes generalizing done with
  | nil =>
    rw [List.append_nil]
    rfl
  | cons b bytes ih =>
    rw [List.flatMap_cons, List.append_assoc, run_of_feed (feed_escape b), ih]
    simp

theorem read_escape (s : String) (rest : Bytes) :
    read ((utf8 s).flatMap Write.escape ++ Ascii.quote :: rest) = .ok (s, rest) := by
  rw [read, run_escape]
  simp

end Bulletin.Json.Literal
