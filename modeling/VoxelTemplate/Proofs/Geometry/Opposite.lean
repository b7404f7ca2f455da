import VoxelTemplate.Proofs.Geometry.Turning

/-! Opposite facings. Each place of one facing is the half turn of the same place of the other: of a
cell, of the authored offset, and of the foundation, where the half turn makes the smaller corner
from the greater. -/
namespace VoxelTemplate

def Facing.opposite : Facing → Facing
  | north => south
  | south => north
  | east => west
  | west => east

namespace Point

instance (p : Point) : Decidable p.InWorld :=
  decidable_of_iff ((-2147483648 ≤ p.x ∧ p.x ≤ 2147483647) ∧
      (-2147483648 ≤ p.y ∧ p.y ≤ 2147483647) ∧ -2147483648 ≤ p.z ∧ p.z ≤ 2147483647)
    ⟨fun ⟨hx, hy, hz⟩ => ⟨hx, hy, hz⟩, fun ⟨hx, hy, hz⟩ => ⟨hx, hy, hz⟩⟩

/-- Half a turn about the vertical axis. -/
def halfTurn (p : Point) : Point := ⟨-p.x, p.y, -p.z⟩

theorem halfTurn_add (p q : Point) : (p + q).halfTurn = p.halfTurn + q.halfTurn := by
  ext <;> simp only [halfTurn, add_x, add_y, add_z, Int.neg_add]

/-- The smaller and the greater corner, one step below the origin, of what spans two points and a
margin around them. -/
def box (p q : Point) (margin : Int) : Point × Point :=
  (⟨min p.x q.x - margin, -1, min p.z q.z - margin⟩,
    ⟨max p.x q.x + margin, -1, max p.z q.z + margin⟩)

theorem box_halfTurn (p q : Point) (margin : Int) :
    box p.halfTurn q.halfTurn margin = ((box p q margin).2.halfTurn, (box p q margin).1.halfTurn) := by
  ext <;> simp only [box, halfTurn] <;> omega

end Point

namespace Geometry

theorem frame_opposite (facing : Facing) (left up ahead : Int) :
    frame facing.opposite left up ahead = (frame facing left up ahead).halfTurn := by
  cases facing <;> simp [Facing.opposite, frame, Point.halfTurn]

theorem turnedOffset_opposite (facing : Facing) (offset : Offset) :
    turnedOffset facing.opposite offset = (turnedOffset facing offset).halfTurn := by
  cases facing <;> simp [Facing.opposite, turnedOffset, Point.halfTurn]

/-- Only the least coordinate is cut when its sign changes. -/
theorem turnedOffset_inWorld (facing : Facing) {offset : Offset} (hx : offset.x ≠ .least)
    (hz : offset.z ≠ .least) : (turnedOffset facing offset).InWorld := by
  have least (c : Coord) (h : c ≠ .least) : -2147483647 ≤ c.val := by
    have := c.least_le
    have : c.val ≠ -2147483648 := fun he => h (Coord.ext he)
    omega
  have := least _ hx
  have := least _ hz
  have := offset.x.le_greatest
  have := offset.y.least_le
  have := offset.y.le_greatest
  have := offset.z.le_greatest
  constructor <;> cases facing <;> simp only [turnedOffset] <;> omega

/-- The corners of the foundation before they are cut to the range of a world. -/
def corners (origin : Position) (facing : Facing) (extent : Extent) (margin : Coord) :
    Point × Point :=
  let near := way origin facing extent ⟨0, 0, 0⟩
  let far := way origin facing extent ⟨extent.depth - 1, 0, extent.width - 1⟩
  let box := Point.box near far margin.val
  (origin.toPoint + box.1, origin.toPoint + box.2)

theorem footprint_eq_clamp (origin : Position) (facing : Facing) (extent : Extent)
    (margin : Coord) : footprint origin facing extent margin =
      ((corners origin facing extent margin).1.clamp, (corners origin facing extent margin).2.clamp) := by
  have clamp_congr {m n : Int} (h : m = n) : Coord.clamp m = Coord.clamp n := congrArg _ h
  simp only [footprint, corners, Point.box, way, Point.clamp, Coord.add, Coord.sub, Coord.val_min,
    Coord.val_max, Position.toPoint, Point.add_x, Point.add_y, Point.add_z, Point.sub_x, Point.sub_z,
    Prod.mk.injEq, Position.mk.injEq]
  refine ⟨⟨clamp_congr ?_, clamp_congr ?_, clamp_congr ?_⟩, clamp_congr ?_, clamp_congr ?_,
    clamp_congr ?_⟩ <;> omega

end Geometry
end VoxelTemplate
