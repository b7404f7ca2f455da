import VoxelTemplate.Orientation
import VoxelTemplate.Text.Numeral
/-! Things that a plan reports and works around. -/
namespace VoxelTemplate

/-- A place in the grid of a template: layers go away from the viewer, rows up, columns across. -/
structure Cell where
  layer : Nat
  row : Nat
  column : Nat
deriving DecidableEq, Repr

inductive Diagnostic where
  /-- A cell holds a key that no line defines. -/
  | undefinedKey (key : Text) (cell : Cell)
  /-- The table of the kind does not know the tile data. -/
  | unknownTile (kind : Orientation) (tile : Text)
  /-- The count of a summon is no number of 32 bits. -/
  | invalidCount (spec value : Text)
  /-- The margin of the base is no coordinate. -/
  | invalidMargin (value : Text)
deriving DecidableEq, Repr

namespace Diagnostic

def message : Diagnostic → Text
  | undefinedKey key cell =>
    "Missing key ".toList ++ key ++ " at layer ".toList ++ Numeral.ofNat cell.layer ++
      ", row ".toList ++ Numeral.ofNat cell.row ++ ", column ".toList ++ Numeral.ofNat cell.column
  | unknownTile kind tile =>
    "Unknown ".toList ++ kind.name ++ " tile data '".toList ++ tile ++ "', using ".toList ++
      kind.fallback
  | invalidCount spec value =>
    "Invalid count '".toList ++ value ++ "' in '".toList ++ spec ++ "', summoning once".toList
  | invalidMargin value => "Invalid base margin '".toList ++ value ++ "', using 0".toList

end Diagnostic
end VoxelTemplate
