import Bulletin.Http.Message
import Bulletin.Text.Blank
import Bulletin.Text.Numeral

namespace Bulletin

namespace Request

def header? (name : String) (line : String) : Option String :=
  match line.toList.span (· ≠ ':') with
  | (found, _ :: value) =>
    if (String.ofList found).toLower = name then some (Text.trim (.ofList value)) else none
  | _ => none

def ofHead? (first : String) (headers : List String) : Option (Request × Nat) := do
  let [method, target, _] := first.splitOn " " | none
  let length := (headers.findSome? (header? "content-length")).bind (Numeral.ofText? UInt32.size)
  let contentType := headers.findSome? (header? "content-type")
  return ({ method, uri := ← Uri.ofText? target, contentType }, length.getD 0)

end Request

namespace Response

def headers (r : Response) : List (String × String) :=
  r.contentType.toList.map ("content-type", ·) ++ r.allow.toList.map ("allow", ·)
    ++ [("content-length", toString r.body.length)]

def write (r : Response) : Bytes :=
  utf8 ("HTTP/1.1 " ++ toString r.status.code ++ " " ++ r.status.reason ++ "\r\n")
    ++ r.headers.flatMap (fun (name, value) => utf8 (name ++ ": " ++ value ++ "\r\n"))
    ++ utf8 "\r\n" ++ r.body

end Response

end Bulletin
