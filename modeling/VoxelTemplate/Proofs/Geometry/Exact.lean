import VoxelTemplate.Geometry
import Mathlib.Data.Rat.Floor
import Mathlib.Tactic.Ring

/-! Where cells lie over the whole numbers. The table of the facings is read here without bounds
and without rounding of its own. Every position that is computed is the clamp of a point that the
same steps reach without bounds, and in a grid of moderate size that point is the exact one. -/
namespace VoxelTemplate

/-- A position without bounds. -/
@[ext] structure Point where
  x : Int
  y : Int
  z : Int
deriving DecidableEq, Repr

namespace Point

instance : Add Point := ⟨fun p q => ⟨p.x + q.x, p.y + q.y, p.z + q.z⟩⟩

instance : Sub Point := ⟨fun p q => ⟨p.x - q.x, p.y - q.y, p.z - q.z⟩⟩

@[simp] theorem add_x (p q : Point) : (p + q).x = p.x + q.x := rfl

@[simp] theorem add_y (p q : Point) : (p + q).y = p.y + q.y := rfl

@[simp] theorem add_z (p q : Point) : (p + q).z = p.z + q.z := rfl

@[simp] theorem sub_x (p q : Point) : (p - q).x = p.x - q.x := rfl

@[simp] theorem sub_y (p q : Point) : (p - q).y = p.y - q.y := rfl

@[simp] theorem sub_z (p q : Point) : (p - q).z = p.z - q.z := rfl

theorem add_sub_self (p q : Point) : p + q - p = q := by
  ext <;> simp only [sub_x, sub_y, sub_z, add_x, add_y, add_z] <;> omega

/-- A way by another point on it. -/
theorem sub_eq_add_sub {p q w : Point} (h : q = p + w) (r : Point) : r - p = w + (r - q) := by
  subst h
  ext <;> simp only [sub_x, sub_y, sub_z, add_x, add_y, add_z] <;> omega

structure InWorld (p : Point) : Prop where
  x : -2147483648 ≤ p.x ∧ p.x ≤ 2147483647
  y : -2147483648 ≤ p.y ∧ p.y ≤ 2147483647
  z : -2147483648 ≤ p.z ∧ p.z ≤ 2147483647

/-- The position of a world nearest to a point. -/
def clamp (p : Point) : Position := ⟨.clamp p.x, .clamp p.y, .clamp p.z⟩

end Point

def Position.toPoint (p : Position) : Point := ⟨p.x.val, p.y.val, p.z.val⟩

theorem Coord.val_wrap {n : Int} (hl : -2147483648 ≤ n) (hg : n ≤ 2147483647) :
    (Coord.wrap n).val = n :=
  congrArg Coord.val (Coord.wrap_val ⟨n, hl, hg⟩)

theorem Coord.natAbs_val_le (a : Coord) : a.val.natAbs ≤ 2147483648 := by
  have := a.least_le
  have := a.le_greatest
  omega

theorem Point.toPoint_clamp {p : Point} (h : p.InWorld) : p.clamp.toPoint = p := by
  obtain ⟨hx, hy, hz⟩ := h
  ext <;> simp only [clamp, Position.toPoint, Coord.val_clamp] <;> omega

/-- The order in which a grid is read: by layers, in a layer by rows, in a row by columns. -/
def Cell.Before (a b : Cell) : Prop :=
  a.layer < b.layer ∨ a.layer = b.layer ∧ (a.row < b.row ∨ a.row = b.row ∧ a.column < b.column)

theorem Cell.Before.ne {a b : Cell} (h : a.Before b) : a ≠ b := by
  rintro rfl
  simp [Before] at h

namespace Extent

/-- Extents for which no step of the geometry loses a digit. -/
structure Bounded (extent : Extent) : Prop where
  depth_le : extent.depth ≤ 2147483647
  height_le : extent.height ≤ 2147483647
  width_le : extent.width ≤ 2 ^ 52

structure Has (extent : Extent) (cell : Cell) : Prop where
  layer_lt : cell.layer < extent.depth
  row_lt : cell.row < extent.height
  column_lt : cell.column < extent.width

theorem mem_cells {extent : Extent} {cell : Cell} : cell ∈ extent.cells ↔ extent.Has cell := by
  simp only [cells, List.mem_flatMap, List.mem_range, List.mem_map]
  constructor
  · rintro ⟨i, hi, j, hj, k, hk, rfl⟩
    exact ⟨hi, hj, hk⟩
  · rintro ⟨hi, hj, hk⟩
    exact ⟨cell.layer, hi, cell.row, hj, cell.column, hk, rfl⟩

/-- The cells stand in the order of a reader: each layer row by row, each row from its first
column. -/
theorem pairwise_cells (extent : Extent) : extent.cells.Pairwise Cell.Before := by
  have row (i j : Nat) :
      ((List.range extent.width).map fun k => Cell.mk i j k).Pairwise Cell.Before := by
    rw [List.pairwise_map]
    exact List.pairwise_lt_range.imp fun h => .inr ⟨rfl, .inr ⟨rfl, h⟩⟩
  have layer (i : Nat) : ((List.range extent.height).flatMap fun j =>
      (List.range extent.width).map fun k => Cell.mk i j k).Pairwise Cell.Before := by
    rw [List.pairwise_flatMap]
    refine ⟨fun j _ => row i j, List.pairwise_lt_range.imp ?_⟩
    intro j j' hj a ha b hb
    obtain ⟨_, _, rfl⟩ := List.mem_map.1 ha
    obtain ⟨_, _, rfl⟩ := List.mem_map.1 hb
    exact .inr ⟨rfl, .inl hj⟩
  rw [cells, List.pairwise_flatMap]
  refine ⟨fun i _ => layer i, List.pairwise_lt_range.imp ?_⟩
  intro i i' hi a ha b hb
  simp only [List.mem_flatMap, List.mem_map] at ha hb
  obtain ⟨_, _, _, _, rfl⟩ := ha
  obtain ⟨_, _, _, _, rfl⟩ := hb
  exact .inl hi

theorem nodup_cells (extent : Extent) : extent.cells.Nodup :=
  extent.pairwise_cells.imp fun h => h.ne

theorem length_cells (extent : Extent) :
    extent.cells.length = extent.depth * extent.height * extent.width := by
  simp [cells, List.length_flatMap, Nat.mul_assoc]

end Extent

namespace Geometry

/-- The table of the facings, over the rational numbers. -/
def exact (origin : Position) (facing : Facing) (extent : Extent) (cell : Cell) : Point :=
  let ⟨x, y, z⟩ := origin.toPoint
  let half : Rat := extent.width / 2
  match facing with
  | .north => ⟨⌊x + half - cell.column⌋, y + cell.row, z + extent.depth - cell.layer⟩
  | .south => ⟨⌈x - half + cell.column⌉, y + cell.row, z - extent.depth + cell.layer⟩
  | .east => ⟨x - extent.depth + cell.layer, y + cell.row, ⌈z - half + cell.column⌉⟩
  | .west => ⟨x + extent.depth - cell.layer, y + cell.row, ⌊z + half - cell.column⌋⟩

/-- Columns from the middle of a row to a cell, leftward for who looks from the front. -/
def across (extent : Extent) (cell : Cell) : Int := extent.width / 2 - cell.column

def away (extent : Extent) (cell : Cell) : Int := extent.depth - cell.layer

/-- The way from the origin to a cell. -/
def shift (facing : Facing) (extent : Extent) (cell : Cell) : Point :=
  match facing with
  | .north => ⟨across extent cell, cell.row, away extent cell⟩
  | .south => ⟨-across extent cell, cell.row, -away extent cell⟩
  | .east => ⟨-away extent cell, cell.row, -across extent cell⟩
  | .west => ⟨away extent cell, cell.row, across extent cell⟩

private theorem floor_half (c : Int) (extent : Extent) (cell : Cell) :
    ⌊(c : Rat) + extent.width / 2 - cell.column⌋ = c + across extent cell := by
  have h : ⌊((extent.width : Int) : Rat) / ((2 : Nat) : Rat)⌋ = (extent.width : Int) / 2 :=
    Rat.floor_intCast_div_natCast _ _
  have e : (c : Rat) + extent.width / 2 - cell.column =
      ((extent.width : Int) : Rat) / ((2 : Nat) : Rat) + ((c - cell.column : Int) : Rat) := by
    push_cast; ring
  rw [e, Int.floor_add_intCast, h, across]
  ring

private theorem ceil_half (c : Int) (extent : Extent) (cell : Cell) :
    ⌈(c : Rat) - extent.width / 2 + cell.column⌉ = c - across extent cell := by
  have e : (c : Rat) - extent.width / 2 + cell.column =
      -(((-c : Int) : Rat) + extent.width / 2 - cell.column) := by push_cast; ring
  rw [e, Int.ceil_neg, floor_half]
  ring

/-- Both roundings of the table move the same whole number of columns. -/
theorem exact_eq (origin : Position) (facing : Facing) (extent : Extent) (cell : Cell) :
    exact origin facing extent cell = origin.toPoint + shift facing extent cell := by
  cases facing <;> ext <;>
    simp only [exact, shift, floor_half, ceil_half, away, Point.add_x, Point.add_y, Point.add_z] <;>
    ring

/-- Different cells have different ways from the origin, whatever the parity of the width. -/
theorem shift_injective (facing : Facing) (extent : Extent) :
    Function.Injective (shift facing extent) := by
  rintro ⟨i, j, k⟩ ⟨i', j', k'⟩ h
  have hx := congrArg Point.x h
  have hy := congrArg Point.y h
  have hz := congrArg Point.z h
  cases facing <;> simp only [shift, across, away] at hx hy hz <;>
    simp only [Cell.mk.injEq] <;> omega

/-- The column of a cell to the left of a centre, before it is cut to the range of a world. -/
def leftPlace (centre : Int) (width k : Nat) : Int :=
  Rounding.int (Rounding.int (2 * centre + Rounding.nat width) - 2 * Rounding.nat k) / 2

/-- The column of a cell to the right of a centre, before it is cut. -/
def rightPlace (centre : Int) (width k : Nat) : Int :=
  -(-Rounding.int (Rounding.int (2 * centre - Rounding.nat width) + 2 * Rounding.nat k) / 2)

/-- Rounding down on the left mirrors rounding up on the right. -/
theorem rightPlace_eq_neg (centre : Int) (width k : Nat) :
    rightPlace centre width k = -leftPlace (-centre) width k := by
  have edge : 2 * -centre + Rounding.nat width = -(2 * centre - Rounding.nat width) := by omega
  have place (e : Int) : -e - 2 * Rounding.nat k = -(e + 2 * Rounding.nat k) := by omega
  rw [leftPlace, edge, Rounding.int_neg, place, Rounding.int_neg, rightPlace]

/-- Nothing on the way to the place of a column is rounded: not the width of its row, the number of
the column, or either end of the row, and not the place itself. Halves are taken twice. -/
structure Unrounded (centre : Int) (width k : Nat) : Prop where
  width_eq : Rounding.nat width = width
  column_eq : Rounding.nat k = k
  leftEdge : Rounding.int (2 * centre + width) = 2 * centre + width
  leftPlace : Rounding.int (2 * centre + width - 2 * k) = 2 * centre + width - 2 * k
  rightEdge : Rounding.int (2 * centre - width) = 2 * centre - width
  rightPlace : Rounding.int (2 * centre - width + 2 * k) = 2 * centre - width + 2 * k

theorem unrounded {centre : Int} (hc : centre.natAbs ≤ 2147483648) {width k : Nat}
    (hw : width ≤ 2 ^ 52) (hk : k < width) : Unrounded centre width k := by
  refine ⟨Rounding.nat_of_le ?_, Rounding.nat_of_le ?_, Rounding.int_of_natAbs_le ?_,
    Rounding.int_of_natAbs_le ?_, Rounding.int_of_natAbs_le ?_, Rounding.int_of_natAbs_le ?_⟩ <;>
    omega

theorem leftPlace_eq {centre : Int} (hc : centre.natAbs ≤ 2147483648) {width k : Nat}
    (hw : width ≤ 2 ^ 52) (hk : k < width) :
    leftPlace centre width k = centre + (width / 2 - k) := by
  have kept := unrounded hc hw hk
  simp only [leftPlace, kept.width_eq, kept.column_eq, kept.leftEdge, kept.leftPlace]
  omega

theorem rightPlace_eq {centre : Int} (hc : centre.natAbs ≤ 2147483648) {width k : Nat}
    (hw : width ≤ 2 ^ 52) (hk : k < width) :
    rightPlace centre width k = centre - (width / 2 - k) := by
  rw [rightPlace_eq_neg, leftPlace_eq (by omega) hw hk]
  omega

theorem reach_val {extent : Extent} {cell : Cell} (hb : extent.Bounded) (hc : extent.Has cell) :
    (reach extent cell).val = away extent cell := by
  have := hb.depth_le
  have := hc.layer_lt
  exact Coord.val_wrap (by omega) (by omega)

theorem row_val {extent : Extent} {cell : Cell} (hb : extent.Bounded) (hc : extent.Has cell) :
    (Coord.wrap cell.row).val = cell.row := by
  have := hb.height_le
  have := hc.row_lt
  exact Coord.val_wrap (by omega) (by omega)

/-- The position of a cell before it is cut to the range of a world. -/
def steps (origin : Position) (facing : Facing) (extent : Extent) (cell : Cell) : Point :=
  let ⟨x, y, z⟩ := origin.toPoint
  let up := (Coord.wrap cell.row).val
  let ahead := (reach extent cell).val
  match facing with
  | .north => ⟨leftPlace x extent.width cell.column, y + up, z + ahead⟩
  | .south => ⟨rightPlace x extent.width cell.column, y + up, z - ahead⟩
  | .east => ⟨x - ahead, y + up, rightPlace z extent.width cell.column⟩
  | .west => ⟨x + ahead, y + up, leftPlace z extent.width cell.column⟩

theorem locate_eq_clamp_steps (origin : Position) (facing : Facing) (extent : Extent)
    (cell : Cell) : locate origin facing extent cell = (steps origin facing extent cell).clamp := by
  cases facing <;> rfl

/-- In a grid of moderate size the steps lead to the exact place. -/
theorem steps_eq_exact (origin : Position) (facing : Facing) {extent : Extent} {cell : Cell}
    (hb : extent.Bounded) (hc : extent.Has cell) :
    steps origin facing extent cell = exact origin facing extent cell := by
  have left (c : Coord) := leftPlace_eq c.natAbs_val_le hb.width_le hc.column_lt
  have right (c : Coord) := rightPlace_eq c.natAbs_val_le hb.width_le hc.column_lt
  rw [exact_eq]
  ext <;> cases facing <;>
    simp only [steps, shift, across, left, right, row_val hb hc, reach_val hb hc,
      Position.toPoint, Point.add_x, Point.add_y, Point.add_z] <;>
    omega

/-- The position of a cell is the exact one, cut to the world. -/
theorem locate_eq_clamp (origin : Position) (facing : Facing) {extent : Extent} {cell : Cell}
    (hb : extent.Bounded) (hc : extent.Has cell) :
    locate origin facing extent cell = (exact origin facing extent cell).clamp := by
  rw [locate_eq_clamp_steps, steps_eq_exact origin facing hb hc]

/-- No position of a cell is cut. -/
structure Fits (origin : Position) (facing : Facing) (extent : Extent) : Prop where
  bounded : extent.Bounded
  inWorld : ∀ cell, extent.Has cell → (exact origin facing extent cell).InWorld

variable {origin : Position} {facing : Facing} {extent : Extent} {cell : Cell}

theorem Fits.toPoint_locate (h : Fits origin facing extent) (hc : extent.Has cell) :
    (locate origin facing extent cell).toPoint = origin.toPoint + shift facing extent cell := by
  rw [locate_eq_clamp origin facing h.bounded hc, Point.toPoint_clamp (h.inWorld cell hc), exact_eq]

/-- Away from the ends of the world by depth and width, a structure fits for every facing. -/
theorem Fits.of_room (hb : extent.Bounded)
    (hx : origin.x.val.natAbs + extent.depth + extent.width ≤ 2147483647)
    (hy : origin.y.val + extent.height ≤ 2147483647)
    (hz : origin.z.val.natAbs + extent.depth + extent.width ≤ 2147483647) :
    Fits origin facing extent := by
  refine ⟨hb, ?_⟩
  intro cell hc
  have := origin.y.least_le
  have := hc.layer_lt
  have := hc.row_lt
  have := hc.column_lt
  rw [exact_eq]
  constructor <;> cases facing <;>
    simp only [shift, across, away, Position.toPoint, Point.add_x, Point.add_y, Point.add_z] <;>
    omega

theorem Fits.cell_eq (h : Fits origin facing extent) {other : Cell} (hc : extent.Has cell)
    (ho : extent.Has other)
    (he : locate origin facing extent cell = locate origin facing extent other) : cell = other := by
  have hp := congrArg Position.toPoint he
  rw [h.toPoint_locate hc, h.toPoint_locate ho] at hp
  apply shift_injective facing extent
  ext
  · simpa using congrArg Point.x hp
  · simpa using congrArg Point.y hp
  · simpa using congrArg Point.z hp

end Geometry
end VoxelTemplate
