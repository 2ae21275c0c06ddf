import Bulletin.Json.Write

namespace Bulletin

structure FieldErrors where
  entries : List (String × List String)
  deriving DecidableEq, Repr

namespace FieldErrors

def empty : FieldErrors := ⟨[]⟩

def insert (field message : String) : List (String × List String) → List (String × List String)
  | [] => [(field, [message])]
  | (name, messages) :: rest =>
    if field < name then (field, [message]) :: (name, messages) :: rest
    else if field = name then (name, messages ++ [message]) :: rest
    else (name, messages) :: insert field message rest

def add (errors : FieldErrors) (field message : String) : FieldErrors :=
  ⟨insert field message errors.entries⟩

def single (field message : String) : FieldErrors := empty.add field message

def isEmpty (errors : FieldErrors) : Bool := errors.entries.isEmpty

def field? (errors : FieldErrors) (field : String) : Option (List String) :=
  errors.entries.lookup field

def fields (errors : FieldErrors) : List String := errors.entries.map (·.1)

structure Display where
  text : String := ""
  first : Bool := true

def Display.put (shown : Display) (field message : String) : Display where
  text := (if shown.first then shown.text else shown.text ++ "; ") ++ (field ++ ": " ++ message)
  first := false

def Display.putAll (shown : Display) : String × List String → Display
  | (field, messages) => messages.foldl (·.put field) shown

def message (errors : FieldErrors) : String := (errors.entries.foldl Display.putAll {}).text

def write (errors : FieldErrors) : Bytes :=
  Json.Write.object (errors.entries.map fun (field, messages) =>
    (field, Json.Write.list (messages.map Json.Write.text)))

end FieldErrors

end Bulletin
