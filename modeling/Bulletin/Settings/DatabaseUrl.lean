import Bulletin.Settings.Environment
import Bulletin.Text.Quoted
import Bulletin.Url.Basic

namespace Bulletin.DatabaseUrl

inductive Fault where
  | url (fault : Url.Fault)
  | text (fault : Utf8.Fault)
  | numeral (fault : Settings.NumeralFault)
  | address
  | sslMode (value : String)
  deriving DecidableEq, Repr

def Fault.message : Fault → String
  | .url fault => fault.message
  | .text fault => fault.message
  | .numeral fault => fault.message
  | .address => "invalid IP address syntax"
  | .sslMode value =>
    "error with configuration: unknown value " ++ Text.quoted value ++ " for `ssl_mode`"

def checkText (part : String) : Except Fault Unit :=
  match Utf8.fault? (Percent.decode (utf8 part)) with
  | some fault => .error (.text fault)
  | none => .ok ()

def checkHost : Option Url.Host → Except Fault Unit
  | some (.text s) =>
    if (Percent.decode (utf8 s)).head? = some Ascii.slash then checkText s else .ok ()
  | _ => .ok ()

def unescape (cs : List Char) : String :=
  Utf8.lossy (Percent.decode (utf8 (.ofList (cs.map fun c => if c = '+' then ' ' else c))))

def sslModes : List String := ["disable", "allow", "prefer", "require", "verify-ca", "verify-full"]

def checkNumeral (bound : Nat) (value : String) : Except Fault Unit :=
  match Settings.numeral bound value with
  | .ok _ => .ok ()
  | .error fault => .error (.numeral fault)

def checkParameter (name value : String) : Except Fault Unit :=
  match name with
  | "sslmode" | "ssl-mode" =>
    if sslModes.contains value.toLower then .ok () else .error (.sslMode value)
  | "hostaddr" => if (Address.ofText? value).isSome then .ok () else .error .address
  | "port" => checkNumeral UInt16.size value
  | "statement-cache-capacity" => checkNumeral UInt64.size value
  | _ => .ok ()

def checkQuery (query : String) : Except Fault Unit :=
  (Text.split (· = '&') query.toList).forM fun parameter =>
    let (name, value) := parameter.span (· ≠ '=')
    checkParameter (unescape name) (unescape (value.drop 1))

def check (s : String) : Except Fault Unit := do
  let url ← (Url.read s).mapError .url
  checkHost url.host
  checkText url.user
  checkText url.password
  checkText url.path.name
  checkQuery (url.query.getD "")

end Bulletin.DatabaseUrl
