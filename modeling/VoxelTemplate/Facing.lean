import VoxelTemplate.Text.Blank
/-! The four horizontal facings of a structure: their names, and the facing a sign reads from. -/
namespace VoxelTemplate

inductive Facing where
  | north | south | east | west
deriving DecidableEq, Repr, Inhabited

namespace Facing

def all : List Facing := [north, south, east, west]

def name : Facing → Text
  | north => "north".toList
  | south => "south".toList
  | east => "east".toList
  | west => "west".toList

/-- The facing whose name the text is, up to blanks around it and the case of `A` to `Z`. -/
def read? (text : Text) : Option Facing :=
  all.find? fun facing => facing.name = Text.toLowerAscii (Text.trim text)

def unknownMessage (text : Text) : Text :=
  "unknown direction '".toList ++ text ++ "' (expected north, south, east or west)".toList

/-- A standing sign turns in sixteen steps from south over west; each facing gets four of them,
and a number beyond them is north. -/
def ofSign (rotation : Nat) : Facing :=
  if rotation < 4 then south
  else if rotation < 8 then west
  else if rotation < 12 then north
  else if rotation < 16 then east
  else north

end Facing
end VoxelTemplate
