import Bulletin.Domain.Fate

namespace Bulletin.Domain

def isRightToLeft (label : List Char) : Bool :=
  label.any fun c => kind c = .rightToLeft || kind c = .arabicNumber

def isIndifferent (k : Kind) : Bool := k = .europeanNumber || k = .neutral || k = .mark

def isForward (k : Kind) : Bool := k = .leftToRight || k = .spacingMark

def isBackward (k : Kind) : Bool := k = .rightToLeft || k = .arabicNumber

def isDirected (label : List Char) : Bool :=
  let kinds := ((label.map kind).reverse.dropWhile (· = .mark)).reverse
  match label.head?.map kind with
  | none => true
  | some first =>
    if isForward first then
      kinds.all (fun k => isForward k || isIndifferent k)
        && kinds.getLast?.any (fun k => isForward k || k = .europeanNumber)
    else
      first = .rightToLeft
        && kinds.all (fun k => isBackward k || isIndifferent k)
        && kinds.getLast?.any (fun k => isBackward k || k = .europeanNumber)
        && !(kinds.contains .arabicNumber && kinds.contains .europeanNumber)

end Bulletin.Domain
