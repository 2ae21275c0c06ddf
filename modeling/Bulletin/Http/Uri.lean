namespace Bulletin

structure Uri where
  scheme : Option String := none
  authority : Option String := none
  path : String
  query : Option String := none
  deriving DecidableEq, Repr

namespace Uri

def isSchemeChar (c : Char) : Bool :=
  c.isAlphanum || c == '+' || c == '-' || c == '.' || c == '~'

def endsAuthority (c : Char) : Bool := c == '/' || c == '?' || c == '#'

def schemeOf (cs : List Char) : String :=
  let small := cs.map Char.toLower
  .ofList (if small = ['h', 't', 't', 'p'] ∨ small = ['h', 't', 't', 'p', 's'] then small else cs)

def ofTarget (scheme authority : Option String) (cs : List Char) : Uri :=
  let (path, query) := (cs.takeWhile (· ≠ '#')).span (· ≠ '?')
  { scheme, authority
    path := if path.isEmpty then "/" else .ofList path
    query := match query with
      | [] => none
      | _ :: query => some (.ofList query) }

def ofText? (s : String) : Option Uri :=
  let cs := s.toList
  match cs with
  | [] => none
  | '/' :: _ | ['*'] => some (ofTarget none none cs)
  | _ => match cs.span isSchemeChar with
    | (scheme, ':' :: '/' :: '/' :: rest) =>
      let (authority, rest) := rest.span (!endsAuthority ·)
      if authority.isEmpty then none
      else some (ofTarget (some (schemeOf scheme)) (some (.ofList authority)) rest)
    | _ => if cs.any endsAuthority then none else some { authority := s, path := "" }

def toText (u : Uri) : String :=
  let scheme := match u.scheme with
    | some scheme => scheme ++ "://"
    | none => ""
  let query := match u.query with
    | some query => "?" ++ query
    | none => ""
  scheme ++ u.authority.getD "" ++ u.path ++ query

end Uri

end Bulletin
