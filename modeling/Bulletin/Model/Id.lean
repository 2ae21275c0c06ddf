import Bulletin.Text.Numeral

namespace Bulletin

inductive Entity where
  | user | post
  deriving DecidableEq, Repr

structure Id (entity : Entity) where
  number : UInt64
  deriving DecidableEq, Repr

abbrev UserId := Id .user
abbrev PostId := Id .post

namespace Id

variable {entity : Entity}

instance : ToString (Id entity) := ⟨fun id => toString id.number.toNat⟩

def ofNat (n : Nat) : Id entity := ⟨n.toUInt64⟩

def ofText? (s : String) : Option (Id entity) := (Numeral.ofText? UInt64.size s).map ofNat

def toRow (id : Id entity) : Int64 := id.number.toInt64

def ofRow (row : Int64) : Id entity := ⟨row.toUInt64⟩

@[simp] theorem ofRow_toRow (id : Id entity) : ofRow id.toRow = id := by
  simp [ofRow, toRow]

@[simp] theorem toRow_ofRow (row : Int64) : (ofRow row : Id entity).toRow = row := by
  simp [ofRow, toRow]

end Id

end Bulletin
