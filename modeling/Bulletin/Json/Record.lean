import Bulletin.Json.Scalar

/-!
Objects with fixed members as domain values. The members come in any order, others between them
are passed over, and a list of the values in the order of the members does as well.
-/

namespace Bulletin.Json

structure Member (δ : Type) where
  name : String
  isFilled : δ → Bool
  read : δ → Reader δ

def Member.of (name : String) (scalar : Scalar α) (get : δ → Option α) (set : α → δ → δ) :
    Member δ where
  name
  isFilled draft := (get draft).isSome
  read draft input := (scalar.read input).map fun (a, rest) => (set a draft, rest)

structure Record (δ α : Type) where
  name : String
  members : List (Member δ)
  blank : δ
  finish : δ → Except String α

namespace Record

variable (r : Record δ α)

def fillMember (size : Nat) (draft : δ) : Reader δ := fun input => do
  let (name, rest) ← Literal.read input
  match r.members.find? (·.name = name) with
  | some m =>
    if m.isFilled draft then throw { cause := .duplicateField name, place := .pending rest }
    m.read draft (← Lexer.colon rest)
  | none => return (draft, ← Lexer.skip size .value [] (← Lexer.colon rest))

def fill (size : Nat) : Nat → Bool → δ → Reader δ
  | 0, _, _, input => .error (.before input .tooDeep)
  | n + 1, first, draft, input => match Lexer.nextMember first input with
    | .error f => .error f
    | .ok (false, rest) => .ok (draft, rest)
    | .ok (true, rest) => match r.fillMember size draft rest with
      | .error f => .error f
      | .ok (draft, rest) => fill size n false draft rest

def fillInOrder : List (Member δ) → Nat → δ → Reader δ
  | [], _, draft, input => (Lexer.endList input).map (draft, ·)
  | m :: ms, i, draft, input => match Lexer.nextElement (i == 0) input with
    | .error f => .error f
    | .ok (false, rest) =>
      let expected := r.name ++ " with " ++ toString r.members.length ++ " elements"
      .error (.before rest (.invalidLength i expected))
    | .ok (true, rest) => match m.read draft rest with
      | .error f => .error f
      | .ok (draft, rest) => fillInOrder ms (i + 1) draft rest

def complete (draft : δ) (rest : Bytes) : Except Failure (α × Bytes) :=
  match r.finish draft with
  | .ok a => .ok (a, rest)
  | .error name => .error (.before rest (.missingField name))

def read (size : Nat) : Reader α := fun input =>
  match Lexer.token input with
  | .error f => .error f
  | .ok (.object, rest) => match r.fill size size true r.blank (rest.drop 1) with
    | .error f => .error (f.settle Lexer.closeObject)
    | .ok (draft, rest) => r.complete draft rest
  | .ok (.sequence, rest) => match r.fillInOrder r.members 0 r.blank (rest.drop 1) with
    | .error f => .error (f.settle Lexer.closeList)
    | .ok (draft, rest) => r.complete draft rest
  | .ok (found, rest) => .error (.before rest (.invalidType found r.name))

def decode (input : Bytes) : Except Error α := Document.whole (r.read (input.length + 1)) input

end Record

end Bulletin.Json
