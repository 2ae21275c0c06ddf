import Bulletin.Text.Alphanumeric
import Bulletin.Text.Blank
import Bulletin.Text.Utf8

/-!
Files of environment variables: a name, an equals sign and a value on each line. Values may stand
in quotes, over several lines, and refer to variables that are set already.

A variable that is set keeps its value, so the first definition counts.
-/

namespace Bulletin

abbrev Variables := List (String × String)

def Variables.set (name value : String) : Variables → Variables
  | [] => [(name, value)]
  | (n, v) :: rest => if n = name then (n, value) :: rest else (n, v) :: set name value rest

namespace Dotenv

structure Fault where
  line : String
  index : Nat
  deriving DecidableEq, Repr

def Fault.message (f : Fault) : String :=
  "Error parsing line: '" ++ f.line ++ "', error at line index: " ++ toString f.index

def byteLength (cs : List Char) : Nat := (String.ofList cs).utf8ByteSize

def Fault.of (line : List Char) (index : Nat) : Fault := ⟨.ofList line, index⟩

def physicalLines : List Char → List (List Char)
  | [] => []
  | '\n' :: cs => ['\n'] :: physicalLines cs
  | c :: cs => match physicalLines cs with
    | [] => [[c]]
    | l :: ls => (c :: l) :: ls

inductive Inside where
  | complete | blank | escape | strong | strongEscape | weak | weakEscape
  deriving DecidableEq, Repr

def opens : Char → Inside
  | '\\' => .escape
  | '"' => .weak
  | '\'' => .strong
  | _ => .complete

def Inside.next (c : Char) : Inside → Inside
  | .complete => if Text.isBlank c && c ≠ '\n' && c ≠ '\r' then .blank else opens c
  | .blank => opens c
  | .escape => .complete
  | .weak => if c = '\\' then .weakEscape else if c = '"' then .complete else .weak
  | .weakEscape => .weak
  | .strong => if c = '\\' then .strongEscape else if c = '\'' then .complete else .strong
  | .strongEscape => .strong

def scan : Inside → Nat → List Char → Inside × Option Nat
  | inside, _, [] => (inside, none)
  | inside, i, c :: cs =>
    if inside = .blank ∧ c = '#' then (.complete, some i) else scan (inside.next c) (i + 1) cs

def withoutEnd (line : List Char) : List Char :=
  match line.reverse with
  | '\n' :: '\r' :: cs | '\n' :: cs => cs.reverse
  | _ => line

def logicalLines (started : List Char) (inside : Inside) :
    List (List Char) → List (Except Fault (List Char))
  | [] => if inside = .complete then [] else [.error (.of started (byteLength started))]
  | line :: lines =>
    let whole := started ++ line
    if (whole.dropWhile Text.isBlank).head? = some '#' then
      .ok [] :: logicalLines [] .complete lines
    else match scan inside 0 line with
      | (_, some i) => .ok (started ++ line.take i) :: logicalLines [] .complete lines
      | (.complete, none) => .ok (withoutEnd whole) :: logicalLines [] .complete lines
      | (inside, none) => logicalLines whole inside lines

/-- How the next character of a value is read. A name is being read after a dollar sign, and
`quoted` tells whether that is between double quotes. -/
inductive Mode where
  | plain (quoted : Bool)
  | strong
  | escaped (quoted : Bool)
  | name (quoted : Bool) (read : List Char)
  | braced (quoted : Bool) (read : List Char)
  | ending
  | comment
  deriving DecidableEq, Repr

namespace Mode

variable (resolve : String → String)

def substitute (read : List Char) : List Char := (resolve (.ofList read.reverse)).toList

def next (c : Char) : Mode → Option (Mode × List Char)
  | .plain quoted =>
    if c = '$' then some (.name quoted [], [])
    else if c = '\\' then some (.escaped quoted, [])
    else if c = '"' then some (.plain (!quoted), [])
    else if quoted then some (.plain true, [c])
    else if c = '\'' then some (.strong, [])
    else if c = ' ' ∨ c = '\t' then some (.ending, [])
    else some (.plain false, [c])
  | .strong => if c = '\'' then some (.plain false, []) else some (.strong, [c])
  | .escaped quoted =>
    if ['\\', '\'', '"', '$', ' '].elem c then some (.plain quoted, [c])
    else if c = 'n' then some (.plain quoted, ['\n'])
    else none
  | .name quoted read =>
    if Text.isAlphanumeric c then some (.name quoted (c :: read), [])
    else if c = '\x7b' ∧ read = [] then some (.braced quoted [], [])
    else if c = '$' then some (.name quoted [], substitute resolve read)
    else some (.plain quoted, substitute resolve read ++ [c])
  | .braced quoted read =>
    if c = '\x7d' then some (.plain quoted, substitute resolve read)
    else some (.braced quoted (c :: read), [])
  | .ending =>
    if c = ' ' ∨ c = '\t' then some (.ending, [])
    else if c = '#' then some (.comment, [])
    else none
  | .comment => some (.comment, [])

def finish : Mode → Option (List Char)
  | .plain false | .escaped false | .ending | .comment => some []
  | .name false read => some (substitute resolve read)
  | _ => none

end Mode

def value (resolve : String → String) (mode : Mode) (i : Nat) (done : List Char) :
    List Char → Except (Option Nat) (List Char)
  | [] => match mode.finish resolve with
    | some more => .ok (done.reverse ++ more)
    | none => .error none
  | c :: cs => match mode.next resolve c with
    | some (mode, more) => value resolve mode (i + 1) (more.reverse ++ done) cs
    | none => .error (some i)

def startsName (c : Char) : Bool := c.isAlpha || c == '_'

def continuesName (c : Char) : Bool := c.isAlphanum || c == '_' || c == '.'

structure Cursor where
  rest : List Char
  index : Nat

def Cursor.skipBlanks (c : Cursor) : Cursor :=
  let (blanks, rest) := c.rest.span Text.isBlank
  ⟨rest, c.index + byteLength blanks⟩

def Cursor.key? (c : Cursor) : Option (String × Cursor) :=
  if c.rest.head?.any startsName then
    let (key, rest) := c.rest.span continuesName
    some (.ofList key, ⟨rest, c.index + key.length⟩)
  else none

def Cursor.equals? (c : Cursor) : Option Cursor :=
  match c.rest with
  | '=' :: rest => some ⟨rest, c.index + 1⟩
  | _ => none

def Cursor.isOver (c : Cursor) : Bool := c.rest.isEmpty || c.rest.head? == some '#'

def name (line : List Char) (c : Cursor) : Except Fault (String × Cursor) := do
  let (key, c) ← named c
  let c := c.skipBlanks
  if key = "export" then
    match c.equals? with
    | some c => return (key, c)
    | none =>
      let (key, c) ← named c
      return (key, ← equals c.skipBlanks)
  else return (key, ← equals c)
where
  named (c : Cursor) : Except Fault (String × Cursor) :=
    c.key?.elim (.error (.of line c.index)) .ok
  equals (c : Cursor) : Except Fault Cursor := c.equals?.elim (.error (.of line c.index)) .ok

def definition (resolve : String → String) (line : List Char) :
    Except Fault (Option (String × String)) := do
  let c := Cursor.skipBlanks ⟨(line.reverse.dropWhile Text.isBlank).reverse, 0⟩
  if c.isOver then return none
  let (key, c) ← name line c
  let c := c.skipBlanks
  if c.isOver then return some (key, "")
  match value resolve (.plain false) 0 [] c.rest with
  | .ok v => return some (key, .ofList v)
  | .error (some i) => throw (.of c.rest i)
  | .error none => throw (.of c.rest (byteLength c.rest - 1))

def resolve (set defined : Variables) (name : String) : String :=
  ((set.lookup name).or (defined.lookup name)).getD ""

def loadLines (set defined : Variables) : List (Except Fault (List Char)) → Except Fault Variables
  | [] => .ok set
  | line :: lines => do
    match ← definition (resolve set defined) (← line) with
    | none => loadLines set defined lines
    | some (key, v) =>
      let set := if (set.lookup key).isSome then set else Variables.set key v set
      loadLines set ((key, v) :: defined) lines

def load (set : Variables) (file : String) : Except Fault Variables :=
  let cs := match file.toList with
    | '\uFEFF' :: cs => cs
    | cs => cs
  loadLines set [] (logicalLines [] .complete (physicalLines cs))

end Dotenv

end Bulletin
