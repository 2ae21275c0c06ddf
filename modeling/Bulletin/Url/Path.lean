import Bulletin.Text.Split

namespace Bulletin.Url

inductive Path where
  | rooted (segments : List String)
  | rootless (s : String)
  deriving DecidableEq, Repr

namespace Path

def withDots : List Char → List Char
  | '%' :: '2' :: 'e' :: cs | '%' :: '2' :: 'E' :: cs => '.' :: withDots cs
  | c :: cs => c :: withDots cs
  | [] => []

def isHere (segment : List Char) : Bool := withDots segment = ['.']

def isUp (segment : List Char) : Bool := withDots segment = ['.', '.']

def isDrive : List Char → Bool
  | [c, d] => c.isAlpha && (d = ':' || d = '|')
  | _ => false

def up : List (List Char) → List (List Char)
  | [] => []
  | segment :: segments => if isDrive segment then segment :: segments else segments

def follow (done : List (List Char)) : List (List Char) → List (List Char)
  | [] => done.reverse
  | segment :: segments =>
    let ending := if segments.isEmpty then [[]] else []
    if isUp segment then follow (ending ++ up done) segments
    else if isHere segment then follow (ending ++ done) segments
    else follow (segment :: done) segments

def ofRoot (isSlash : Char → Bool) (cs : List Char) : Path :=
  .rooted ((follow [] (Text.split isSlash cs)).map String.ofList)

def name : Path → String
  | .rooted segments => "/".intercalate (segments.dropWhile (· = ""))
  | .rootless s => s

end Path

end Bulletin.Url
