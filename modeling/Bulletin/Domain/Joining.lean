import Bulletin.Domain.Composition
import Bulletin.Domain.Fate
import Bulletin.Text.Runs

namespace Bulletin.Domain

def joiner : Char := '\u200D'

def nonJoiner : Char := '\u200C'

def joinsNextRuns : List Nat :=
  [1568, 1, 5, 1, 1, 1, 1, 5, 4, 13, 1, 7, 1, 2, 35, 2, 9, 15, 18, 38, 1, 2, 9, 1, 1, 1, 1, 2, 40,
  3, 2, 1, 18, 3, 5, 4, 1, 9, 1, 1, 1, 1, 1, 2, 31, 11, 3, 15, 2, 4, 1, 1, 2, 3, 2, 6, 74, 33, 86,
  5, 2, 1, 1, 10, 1, 1, 10, 1, 1, 4, 2, 1, 29, 1, 2, 5, 1, 1, 16, 10, 5, 2, 2, 6, 1, 15, 3902, 1,
  24, 89, 14, 34, 1, 1, 36757, 51, 21215, 48, 12, 22, 2, 8, 37, 4, 13, 6, 12, 65, 1, 35, 11, 4, 2,
  4, 2, 4, 2, 8, 1, 7, 1, 1, 2, 4, 3, 70, 1, 24, 3, 24, 4, 24, 4, 15, 20, 64, 2, 54, 42, 1, 2, 5,
  2, 1, 140, 4, 2, 4, 2, 20, 8, 60, 2, 6, 3019, 5, 8, 1, 5, 10, 1, 3, 10, 4, 145, 1, 1, 1, 3, 3, 1,
  2, 1, 1, 2, 1, 28, 2, 337, 34, 1, 1, 415, 2, 1, 2, 104, 3, 1, 17, 12, 3, 28, 4, 2, 12, 46, 1, 1,
  2, 4, 1, 2, 2, 1, 2, 1, 1, 2, 1, 5, 2, 55604, 68, 1213, 2, 4, 12, 1, 4, 1, 7, 1, 2, 1, 1, 2, 1,
  1, 10, 1, 4, 1, 1, 1, 1, 6, 1, 4, 1, 1, 1, 1, 1, 1, 3, 1, 2, 1, 1, 2, 1, 1, 1, 1, 1, 1, 1, 1, 1,
  1, 2, 1, 1, 2, 4, 1, 7, 1, 4, 1, 4, 1, 1, 2, 2, 1, 1, 2, 3, 1, 8, 1, 4, 1, 3, 5, 2, 4, 3, 1, 8,
  1, 4, 1, 3]

def joinsPreviousRuns : List Nat :=
  [1568, 1, 1, 30, 1, 10, 35, 2, 1, 3, 1, 95, 1, 1, 24, 2, 10, 3, 2, 1, 16, 1, 1, 30, 29, 51, 74,
  33, 85, 25, 7, 1, 1, 4, 1, 4, 5, 19, 3, 1, 2, 7, 16, 13, 1, 27, 3902, 1, 24, 89, 14, 34, 1, 1,
  36757, 50, 21214, 98, 33, 139, 6, 142, 3, 73, 18, 64, 2, 54, 40, 10, 2, 1, 132, 124, 3011, 6, 1,
  1, 1, 2, 3, 9, 1, 10, 2, 1, 6, 5, 144, 18, 23, 6, 338, 35, 414, 3, 1, 2, 104, 21, 12, 4, 27, 18,
  46, 1, 1, 5, 1, 8, 1, 4, 4, 2, 55605, 68, 1212, 4, 1, 27, 1, 2, 1, 1, 2, 1, 1, 10, 1, 4, 1, 1, 1,
  1, 6, 1, 4, 1, 1, 1, 1, 1, 1, 3, 1, 2, 1, 1, 2, 1, 1, 1, 1, 1, 1, 1, 1, 1, 1, 2, 1, 1, 2, 4, 1,
  7, 1, 4, 1, 4, 1, 1, 1, 10, 1, 17, 5, 3, 1, 5, 1, 17]

def reaches (runs : List Nat) (cs : List Char) : Bool :=
  (cs.dropWhile (kind · = .mark)).head?.any (Text.inRuns runs)

def joinersFit (before : List Char) : List Char → Bool
  | [] => true
  | c :: cs =>
    let afterVirama := before.head?.any isVirama
    let between := reaches joinsNextRuns before && reaches joinsPreviousRuns cs
    let fits := if c = joiner then afterVirama
      else if c = nonJoiner then afterVirama || between
      else true
    fits && joinersFit (c :: before) cs

end Bulletin.Domain
