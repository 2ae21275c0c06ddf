import Bulletin.Model.Id

namespace Bulletin

structure Table (entity : Entity) (α : Type) where
  rows : List (Id entity × α) := []
  last : UInt64 := 0
  deriving DecidableEq

namespace Table

variable {entity : Entity} {α : Type}

def values (t : Table entity α) : List α := t.rows.map (·.2)

def get? (t : Table entity α) (id : Id entity) : Option α := t.rows.lookup id

def contains (t : Table entity α) (id : Id entity) : Bool := (t.get? id).isSome

def place (id : Id entity) (a : α) : List (Id entity × α) → List (Id entity × α)
  | [] => [(id, a)]
  | (key, b) :: rest =>
    if id.number < key.number then (id, a) :: (key, b) :: rest
    else if id = key then (id, a) :: rest
    else (key, b) :: place id a rest

def add (t : Table entity α) (row : Id entity → α) : α × Table entity α :=
  let id : Id entity := ⟨t.last + 1⟩
  (row id, ⟨place id (row id) t.rows, id.number⟩)

def replace (t : Table entity α) (id : Id entity) (a : α) : Table entity α :=
  { t with rows := t.rows.map fun (key, b) => if key = id then (key, a) else (key, b) }

def erase (t : Table entity α) (id : Id entity) : Table entity α :=
  { t with rows := t.rows.filter (·.1 ≠ id) }

def filter (p : α → Bool) (t : Table entity α) : Table entity α :=
  { t with rows := t.rows.filter (p ·.2) }

end Table

end Bulletin
