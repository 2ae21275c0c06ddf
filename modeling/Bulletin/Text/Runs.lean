/-!
Sets of characters as runs of code points: the lengths of the runs outside and inside the set, in
turn, from zero on. All that follows the last run is outside.
-/

namespace Bulletin.Text

def inRuns (runs : List Nat) (c : Char) : Bool := go false runs c.toNat
where
  go : Bool → List Nat → Nat → Bool
    | _, [], _ => false
    | inside, run :: runs, n => if n < run then inside else go (!inside) runs (n - run)

end Bulletin.Text
