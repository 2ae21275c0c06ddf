import Bulletin.Url.Host
import Bulletin.Url.Path

namespace Bulletin

structure Url where
  scheme : String
  user : String := ""
  password : String := ""
  host : Option Url.Host := none
  port : Option Nat := none
  path : Url.Path
  query : Option String := none
  deriving DecidableEq, Repr

namespace Url

inductive Form where
  | web | file | other
  deriving DecidableEq, Repr

def Form.ofScheme (scheme : String) : Form :=
  if ["http", "https", "ws", "wss", "ftp"].contains scheme then .web
  else if scheme = "file" then .file
  else .other

def Form.isSlash (form : Form) (c : Char) : Bool := c = '/' || (c = '\\' && form ≠ .other)

def isHidden (c : Char) : Bool := c.toNat ≤ 32

def clean (cs : List Char) : List Char :=
  let inner := ((cs.dropWhile isHidden).reverse.dropWhile isHidden).reverse
  inner.filter fun c => c ≠ '\t' && c ≠ '\n' && c ≠ '\r'

def splitUserinfo (authority : List Char) : Option (List Char) × List Char :=
  match authority.reverse.span (· ≠ '@') with
  | (host, _ :: userinfo) => (some userinfo.reverse, host.reverse)
  | (_, []) => (none, authority)

def splitHost (bracket : Bool) : List Char → List Char × List Char
  | [] => ([], [])
  | c :: cs =>
    if c = ':' ∧ !bracket then ([], c :: cs)
    else
      let (host, rest) := splitHost (c = '[' || (bracket && c ≠ ']')) cs
      (c :: host, rest)

def readHost (form : Form) (cs : List Char) : Except Fault (Option Host) :=
  match form, cs with
  | .web, [] => .error .emptyHost
  | _, [] => .ok none
  | .other, cs => (Host.ofText cs).map some
  | _, cs => (Host.ofDomain cs).map some

def maxPort : Nat := 65535

def portOf (digits : List Char) : Nat :=
  digits.foldl (fun n c => min (maxPort + 1) (10 * n + (c.toNat - '0'.toNat))) 0

def readPort : List Char → Except Fault (Option Nat × List Char)
  | ':' :: cs =>
    let (digits, rest) := cs.span (· ≠ '\\')
    if !digits.all Char.isDigit || maxPort < portOf digits then .error .port
    else .ok (if digits.isEmpty then none else some (portOf digits), rest)
  | cs => .ok (none, cs)

def readAuthority (form : Form) (more : Bool) (scheme : String) (cs : List Char) :
    Except Fault Url := do
  let (authority, path) := cs.span (!form.isSlash ·)
  let (userinfo, rest) := splitUserinfo authority
  if userinfo = some [] ∧ rest = [] ∧ (more ∨ path ≠ []) then throw .emptyHost
  let (host, rest) := splitHost false rest
  let host ← readHost form host
  if host.isNone ∧ rest ≠ [] then throw .emptyHost
  let (port, rest) ← readPort rest
  let (user, password) := (userinfo.getD []).span (· ≠ ':')
  let password := password.drop 1
  if host.isNone ∧ (user ≠ [] ∨ password ≠ []) then throw .emptyHost
  let path := match rest ++ path with
    | [] => .rooted []
    | c :: cs => .ofRoot form.isSlash (if form.isSlash c then cs else c :: cs)
  return { scheme, user := .ofList user, password := .ofList password, host, port, path }

def readFileHost (cs : List Char) : Except Fault (Option Host) := do
  if cs = [] then return none
  let host ← Host.ofDomain cs
  return if host = .domain ["localhost".toList] then none else some host

def readFile (cs : List Char) : Except Fault Url := do
  let isSlash := Form.file.isSlash
  match cs with
  | c :: d :: rest =>
    if isSlash c && isSlash d then
      let (host, path) := rest.span (!isSlash ·)
      if Path.isDrive host then return located none rest
      return located (← readFileHost host) (path.drop 1)
    else return located none (if isSlash c then d :: rest else cs)
  | _ => return located none (cs.dropWhile isSlash)
where
  located (host : Option Host) (path : List Char) : Url :=
    { scheme := "file", host, path := .ofRoot Form.file.isSlash path }

def readHierarchy (more : Bool) (scheme : String) (cs : List Char) : Except Fault Url :=
  let form := Form.ofScheme scheme
  match form, cs with
  | .web, cs => readAuthority form more scheme (cs.dropWhile form.isSlash)
  | .file, cs => readFile cs
  | .other, '/' :: '/' :: cs => readAuthority form more scheme cs
  | .other, '/' :: cs => .ok { scheme, path := .ofRoot form.isSlash cs }
  | .other, cs => .ok { scheme, path := .rootless (.ofList cs) }

def isSchemeChar (c : Char) : Bool := c.isAlphanum || c == '+' || c == '-' || c == '.'

def isSchemeName (cs : List Char) : Bool := cs.head?.any Char.isAlpha

def read (s : String) : Except Fault Url :=
  match (clean s.toList).span isSchemeChar with
  | (scheme, ':' :: cs) => do
    if !isSchemeName scheme then throw .relative
    let (hierarchy, rest) := cs.span fun c => c ≠ '?' && c ≠ '#'
    let url ← readHierarchy (!rest.isEmpty) (String.ofList scheme).toLower hierarchy
    return { url with query := match rest with
      | '?' :: query => some (.ofList (query.takeWhile (· ≠ '#')))
      | _ => none }
  | _ => .error .relative

end Url

end Bulletin
