import Bulletin.Domain.Direction
import Bulletin.Domain.Joining
import Bulletin.Domain.Punycode
import Bulletin.Domain.Spelling
import Bulletin.Text.Split

/-!
Names of domains: labels between full stops. A label is read as what it means, whether it is written
in its own script or in ASCII; its letters are small.
-/

namespace Bulletin.Domain

abbrev Label := List Char

def maxEncodedLength : Nat := 2000

def maxLength : Nat := 1000

def encodedMark : List Char := ['x', 'n', '-', '-']

def isAscii (label : Label) : Bool := label.all (·.toNat < 128)

def isAdmissible (label : Label) : Bool := !label.head?.any isMark && joinersFit [] label

def isSettled (label : Label) : Bool :=
  isComposed label && label.all fun c => match fate c with
    | .kept _ asItself => asItself
    | _ => false

def decode? (encoded : List Char) : Option Label := do
  if maxEncodedLength < encoded.length then none
  let label ← Punycode.decode? encoded
  if isAscii label || !isSettled label || !isAdmissible label || encodedMark.isPrefixOf label
  then none
  else some label

def label? (cs : List Char) : Option Label :=
  if encodedMark.isPrefixOf cs then decode? (cs.drop encodedMark.length)
  else if isAscii cs || (cs.length ≤ maxLength && isAdmissible cs) then some cs
  else none

def labels? (name : List Char) : Option (List Label) := do
  let chars ← name.mapM expand?
  let labels ← (Text.split (· = '.') chars.flatten).mapM label?
  if labels.any isRightToLeft && !labels.all isDirected then none else some labels

end Bulletin.Domain
