import VoxelTemplate.Facing
/-! Blocks whose tile data says which way they look. A tile value is written for a structure that
faces north; a table per kind of block gives the value that looks the same once it is turned. -/
namespace VoxelTemplate

inductive Orientation where
  | stairs | bed | chest | torch | fenceGate | vine
deriving DecidableEq, Repr

namespace Orientation

def all : List Orientation := [stairs, bed, chest, torch, fenceGate, vine]

def name : Orientation → Text
  | stairs => "stairs".toList
  | bed => "bed".toList
  | chest => "chest".toList
  | torch => "torch".toList
  | fenceGate => "fence_gate".toList
  | vine => "vine".toList

/-- Any block with `stairs` in its name is a kind of stairs; the other names stand alone. -/
def ofBlock? (block : Text) : Option Orientation :=
  if Text.contains stairs.name block then some stairs
  else all.find? fun kind => kind.name = block

/-- One tile value seen from the four facings. -/
structure Turns where
  north : Char
  south : Char
  east : Char
  west : Char
deriving DecidableEq, Repr

def Turns.toward (turns : Turns) : Facing → Text
  | .north => [turns.north]
  | .south => [turns.south]
  | .east => [turns.east]
  | .west => [turns.west]

/-- The tile values that a kind knows, each with its turns. -/
def table : Orientation → List (Text × Turns)
  | stairs => [(['0'], ⟨'0', '1', '3', '2'⟩), (['1'], ⟨'1', '0', '2', '3'⟩),
      (['2'], ⟨'2', '3', '1', '0'⟩), (['3'], ⟨'3', '2', '0', '1'⟩)]
  | bed => [(['0'], ⟨'0', '2', '3', '1'⟩), (['1'], ⟨'1', '3', '0', '2'⟩),
      (['2'], ⟨'2', '0', '1', '3'⟩), (['3'], ⟨'3', '1', '2', '0'⟩)]
  | chest => [(['2'], ⟨'2', '3', '5', '4'⟩), (['3'], ⟨'3', '2', '4', '5'⟩),
      (['4'], ⟨'4', '5', '3', '2'⟩), (['5'], ⟨'5', '4', '2', '3'⟩)]
  | torch => [(['1'], ⟨'1', '2', '4', '4'⟩), (['2'], ⟨'2', '1', '3', '3'⟩),
      (['3'], ⟨'3', '4', '2', '1'⟩), (['4'], ⟨'4', '3', '1', '2'⟩)]
  | fenceGate => [(['0'], ⟨'0', '0', '1', '1'⟩), (['1'], ⟨'1', '1', '0', '0'⟩)]
  | vine => [(['1'], ⟨'1', '4', '2', '3'⟩), (['2'], ⟨'2', '3', '1', '4'⟩),
      (['3'], ⟨'3', '2', '4', '1'⟩), (['4'], ⟨'4', '1', '3', '2'⟩)]

/-- The value that stands in for tile data outside the table. -/
def fallback : Orientation → Text
  | fenceGate => ['0']
  | _ => ['2']

def keys (kind : Orientation) : List Text := kind.table.map Prod.fst

/-- The turned tile value, if the table knows the authored one. -/
def turned? (kind : Orientation) (tile : Text) (facing : Facing) : Option Text :=
  (kind.table.lookup tile).map fun turns => turns.toward facing

def turn (kind : Orientation) (tile : Text) (facing : Facing) : Text :=
  (kind.turned? tile facing).getD kind.fallback

theorem turned?_north {kind : Orientation} {tile : Text} (h : tile ∈ kind.keys) :
    kind.turned? tile .north = some tile := by
  revert tile
  cases kind <;> decide

theorem fallback_mem_keys (kind : Orientation) : kind.fallback ∈ kind.keys := by
  cases kind <;> decide

end Orientation
end VoxelTemplate
