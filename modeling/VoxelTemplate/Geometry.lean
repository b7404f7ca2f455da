import VoxelTemplate.Rounding
import VoxelTemplate.Template.Basic
/-! Where the cells of a template come to lie. A structure that faces north has its layers going
away from the anchor, its rows going up and its columns going across from right to left; the other
facings turn it about the anchor.

| facing | x                      | z                      |
|--------|------------------------|------------------------|
| north  | floor(x + width/2 - k) | z + depth - i          |
| south  | ceil(x - width/2 + k)  | z - depth + i          |
| east   | x - depth + i          | ceil(z - width/2 + k)  |
| west   | x + depth - i          | floor(z + width/2 - k) |

The two roundings keep the centre line of an even width in place for all facings. -/
namespace VoxelTemplate

/-- A position in a world; `y` is the height. -/
structure Position where
  x : Coord
  y : Coord
  z : Coord
deriving DecidableEq, Inhabited

namespace Position

/-- A step along each axis, stopping at the ends of the range. -/
def move (position : Position) (dx dy dz : Coord) : Position :=
  ⟨position.x.add dx, position.y.add dy, position.z.add dz⟩

def toText (position : Position) : Text :=
  position.x.toText ++ ' ' :: position.y.toText ++ ' ' :: position.z.toText

end Position

namespace Geometry

/-- The authored offset turned to the facing and added to the anchor. -/
def origin (anchor : Position) (facing : Facing) (offset : Offset) : Position :=
  match facing with
  | .north => anchor.move offset.x offset.y offset.z
  | .south => anchor.move offset.x.neg offset.y offset.z.neg
  | .east => anchor.move offset.z offset.y offset.x
  | .west => anchor.move offset.z.neg offset.y offset.x.neg

/-- `floor(centre + width/2 - k)`. All values are taken twice, so halves stay whole; each step
keeps 53 binary digits. -/
def leftward (centre : Coord) (width k : Nat) : Coord :=
  let edge := Rounding.int (2 * centre.val + Rounding.nat width)
  .clamp (Rounding.int (edge - 2 * Rounding.nat k) / 2)

/-- `ceil(centre - width/2 + k)`, in the same way. -/
def rightward (centre : Coord) (width k : Nat) : Coord :=
  let edge := Rounding.int (2 * centre.val - Rounding.nat width)
  .clamp (-(-Rounding.int (edge + 2 * Rounding.nat k) / 2))

/-- Layers between a cell and the anchor, the cell's own counted: never zero inside the grid. -/
def reach (extent : Extent) (cell : Cell) : Coord := .wrap ((extent.depth : Int) - cell.layer)

def locate (origin : Position) (facing : Facing) (extent : Extent) (cell : Cell) :
    Position :=
  let y := origin.y.add (.wrap cell.row)
  let reach := reach extent cell
  match facing with
  | .north => ⟨leftward origin.x extent.width cell.column, y, origin.z.add reach⟩
  | .south => ⟨rightward origin.x extent.width cell.column, y, origin.z.sub reach⟩
  | .east => ⟨origin.x.sub reach, y, rightward origin.z extent.width cell.column⟩
  | .west => ⟨origin.x.add reach, y, leftward origin.z extent.width cell.column⟩

/-- Opposite corners, the smaller coordinates first, of the foundation: one block below the origin,
under all ground cells, and `margin` blocks more on each of the four sides. -/
def footprint (origin : Position) (facing : Facing) (extent : Extent) (margin : Coord) :
    Position × Position :=
  let near := locate origin facing extent ⟨0, 0, 0⟩
  let far := locate origin facing extent ⟨extent.depth - 1, 0, extent.width - 1⟩
  let y := origin.y.sub { val := 1 }
  (⟨(near.x.min far.x).sub margin, y, (near.z.min far.z).sub margin⟩,
    ⟨(near.x.max far.x).add margin, y, (near.z.max far.z).add margin⟩)

end Geometry
end VoxelTemplate
