import VoxelTemplate.Coord
import VoxelTemplate.Diagnostic
import VoxelTemplate.Dict
/-! The template: what its text says, before it is placed anywhere. -/
namespace VoxelTemplate

/-- Rows from the ground up, each a row of keys. -/
abbrev Layer := List (List Text)

/-- How far the structure stands from its anchor, for a structure that faces north. -/
structure Offset where
  x : Coord
  y : Coord
  z : Coord
deriving DecidableEq, Inhabited

/-- The foundation: one block and free properties, which stay text until something reads them. -/
structure Base where
  block : Text
  properties : Dict Text
deriving DecidableEq

namespace Base

def ofBlock (block : Text) : Base := ⟨block, .empty⟩

/-- The last value of a property stays. -/
def set (base : Base) (key value : Text) : Base :=
  { base with properties := base.properties.insert key value }

def get? (base : Base) (key : Text) : Option Text := base.properties.find? key

end Base

structure Extent where
  depth : Nat
  height : Nat
  width : Nat
deriving DecidableEq, Repr

namespace Extent

def volume (extent : Extent) : Nat := extent.depth * extent.height * extent.width

/-- Every cell once, layer by layer, row by row. -/
def cells (extent : Extent) : List Cell :=
  (List.range extent.depth).flatMap fun i =>
    (List.range extent.height).flatMap fun j =>
      (List.range extent.width).map fun k => ⟨i, j, k⟩

end Extent

/-- Layers from the front to the back, and the block specifications that its keys stand for. -/
structure Template where
  specs : Dict Text
  layers : List Layer
  offset : Offset
  base : Option Base
deriving DecidableEq

namespace Template

def spec? (template : Template) (key : Text) : Option Text := template.specs.find? key

/-- The first layer and its first row give the extent for all. -/
def extent (template : Template) : Extent where
  depth := template.layers.length
  height := (template.layers.headD []).length
  width := ((template.layers.headD []).headD []).length

/-- The key of a cell; outside the grid, the empty key. -/
def key (template : Template) (cell : Cell) : Text :=
  ((template.layers.getD cell.layer []).getD cell.row []).getD cell.column []

end Template
end VoxelTemplate
