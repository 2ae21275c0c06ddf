import Bulletin.Settings.DatabaseUrl
import Bulletin.Sql.Migration

namespace Bulletin

inductive StartError where
  | file (fault : Dotenv.Fault)
  | settings (fault : Settings.Fault)
  | database (e : DatabaseError)
  | migration (fault : Sql.Migration.Fault)
  deriving DecidableEq

def StartError.message : StartError → String
  | .file fault => "Error parsing .env file: " ++ fault.message
  | .settings fault => "Error parsing environment: " ++ fault.message
  | .database e => "Error opening the store: " ++ e.message
  | .migration fault => "Error opening the store: " ++ fault.message

def Settings.load (set : Variables) (file : Option String) : Except StartError Settings := do
  let all ← match file with
    | some file => (Dotenv.load set file).mapError .file
    | none => pure set
  (Settings.ofVariables all).mapError .settings

inductive Backend where
  | memory
  | database (url : String) (maxConnections : UInt32)
  deriving DecidableEq, Repr

def Settings.backend (s : Settings) : Except StartError Backend :=
  match s.databaseUrl with
  | none => .ok .memory
  | some url => match DatabaseUrl.check url with
    | .ok () => .ok (.database url s.maxConnections)
    | .error fault => .error (.database (.configuration fault.message))

def prepare (applied : List Sql.Applied) :
    Dialogue Sql.Migration (fun _ => Except Refusal Unit) (Except StartError Unit) :=
  (Sql.Migration.run applied).run.bind fun outcome => .done (outcome.mapError .migration)

end Bulletin
