import Bulletin.Settings.Address
import Bulletin.Settings.Dotenv

namespace Bulletin

structure Settings where
  address : Address
  port : UInt16
  databaseUrl : Option String
  maxConnections : UInt32
  deriving DecidableEq

namespace Settings

inductive NumeralFault where
  | empty | digit | tooLarge
  deriving DecidableEq, Repr

def NumeralFault.message : NumeralFault → String
  | .empty => "cannot parse integer from empty string"
  | .digit => "invalid digit found in string"
  | .tooLarge => "number too large to fit in target type"

def digits (bound : Nat) (n : Nat) : List Char → Except NumeralFault Nat
  | [] => .ok n
  | c :: cs =>
    if !c.isDigit then .error .digit
    else
      let n := 10 * n + (c.toNat - '0'.toNat)
      if bound ≤ n then .error .tooLarge else digits bound n cs

def numeral (bound : Nat) (s : String) : Except NumeralFault Nat :=
  match s.toList with
  | [] => .error .empty
  | ['+'] => .error .digit
  | '+' :: cs => digits bound 0 cs
  | cs => digits bound 0 cs

inductive Fault where
  | address
  | numeral (fault : NumeralFault) (value name : String)
  | missing (field : String)
  | duplicate (field : String)
  deriving DecidableEq, Repr

def Fault.message : Fault → String
  | .address => "invalid IP address syntax"
  | .numeral fault value name =>
    fault.message ++ " while parsing value '" ++ value ++ "' provided by " ++ name
  | .missing field => "missing value for field " ++ field
  | .duplicate field => "duplicate field `" ++ field ++ "`"

structure Draft where
  address : Option Address := none
  port : Option UInt16 := none
  databaseUrl : Option String := none
  maxConnections : Option UInt32 := none

def once (field : String) (old : Option α) (new : Except Fault α) : Except Fault (Option α) :=
  if old.isSome then .error (.duplicate field) else new.map some

def readNumeral (bound : Nat) (name value : String) : Except Fault Nat :=
  (numeral bound value).mapError (.numeral · value name)

def readAddress (value : String) : Except Fault Address :=
  match Address.ofText? value with
  | some a => .ok a
  | none => .error .address

def Draft.read (d : Draft) (name value : String) : Except Fault Draft := do
  match name.toLower with
  | "server_address" =>
    return { d with address := ← once "server_address" d.address (readAddress value) }
  | "server_port" =>
    let port := (readNumeral UInt16.size name value).map Nat.toUInt16
    return { d with port := ← once "server_port" d.port port }
  | "database_url" =>
    return { d with databaseUrl := ← once "database_url" d.databaseUrl (.ok value) }
  | "database_max_connections" =>
    let max := (readNumeral UInt32.size name value).map Nat.toUInt32
    return { d with maxConnections := ← once "database_max_connections" d.maxConnections max }
  | _ => return d

def defaultMaxConnections : UInt32 := 5

def Draft.finish (d : Draft) : Except Fault Settings :=
  match d.address, d.port with
  | none, _ => .error (.missing "server_address")
  | _, none => .error (.missing "server_port")
  | some address, some port =>
    .ok ⟨address, port, d.databaseUrl, d.maxConnections.getD defaultMaxConnections⟩

def ofVariables (set : Variables) : Except Fault Settings := do
  let draft ← set.foldlM (fun (d : Draft) (name, value) => d.read name value) {}
  draft.finish

end Settings

end Bulletin
