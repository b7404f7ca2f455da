import VoxelTemplate.Proofs.Geometry.Exact

/-! Grids of any size of which no cell is cut. If the steps to its cells lead to no point outside
the world, the rows are short enough for all roundings to be exact, and the way from the origin to
a cell is read off a table. -/
namespace VoxelTemplate.Geometry

/-- No cell of the grid is cut. -/
def Uncut (origin : Position) (facing : Facing) (extent : Extent) : Prop :=
  ∀ cell, extent.Has cell → (steps origin facing extent cell).InWorld

/-- A place so many columns to the left, rows up and layers ahead, for a structure that faces
north; the other facings have it where their table says. -/
def frame (facing : Facing) (left up ahead : Int) : Point :=
  match facing with
  | .north => ⟨left, up, ahead⟩
  | .south => ⟨-left, up, -ahead⟩
  | .east => ⟨-ahead, up, -left⟩
  | .west => ⟨ahead, up, left⟩

theorem shift_eq_frame (facing : Facing) (extent : Extent) (cell : Cell) :
    shift facing extent cell = frame facing (across extent cell) cell.row (away extent cell) := by
  cases facing <;> rfl

@[simp] theorem frame_y (facing : Facing) (left up ahead : Int) :
    (frame facing left up ahead).y = up := by
  cases facing <;> rfl

/-- The way from the origin to the position of a cell. -/
def way (origin : Position) (facing : Facing) (extent : Extent) (cell : Cell) : Point :=
  (locate origin facing extent cell).toPoint - origin.toPoint

/-- The first column of a wide row lies far outside the world. -/
theorem lt_leftPlace {centre : Int} (hc : centre.natAbs ≤ 2147483648) {width : Nat}
    (hw : 2 ^ 52 < width) : 2147483648 < leftPlace centre width 0 := by
  -- Rounding may change such a width, but not bring it below the numbers that it leaves alone.
  have wide : 2 ^ 52 < Rounding.nat width := by
    rcases Nat.le_total width 0x20000000000000 with h | h
    · rw [Rounding.nat_of_le h]
      exact hw
    · have := Rounding.le_nat h
      omega
  have edge := Rounding.min_le_int (n := 2 * centre + Rounding.nat width) (by omega)
  have place := Rounding.min_le_int (n := Rounding.int (2 * centre + Rounding.nat width))
    (by omega)
  have start : Rounding.nat 0 = 0 := by decide
  rw [leftPlace, start, Nat.cast_zero, Int.mul_zero, Int.sub_zero]
  omega

variable {origin : Position} {facing : Facing} {extent : Extent} {cell : Cell}

theorem Uncut.toPoint_locate (h : Uncut origin facing extent) (hc : extent.Has cell) :
    (locate origin facing extent cell).toPoint = steps origin facing extent cell := by
  rw [locate_eq_clamp_steps, Point.toPoint_clamp (h cell hc)]

/-- A wide grid is cut at its first column. -/
theorem Uncut.width_le (h : Uncut origin facing extent) (hc : extent.Has cell) :
    extent.width ≤ 2 ^ 52 := by
  by_contra hw
  have hw : 2 ^ 52 < extent.width := by omega
  have first := h ⟨cell.layer, cell.row, 0⟩ ⟨hc.layer_lt, hc.row_lt, Nat.zero_lt_of_lt hc.column_lt⟩
  have left (c : Coord) := lt_leftPlace c.natAbs_val_le hw
  have right (c : Coord) : rightPlace c.val extent.width 0 < -2147483648 := by
    have bound : (-c.val).natAbs ≤ 2147483648 := by rw [Int.natAbs_neg]; exact c.natAbs_val_le
    have := lt_leftPlace bound hw
    rw [rightPlace_eq_neg]
    omega
  have := left origin.x
  have := left origin.z
  have := right origin.x
  have := right origin.z
  obtain ⟨hx, -, hz⟩ := first
  cases facing <;> simp only [steps, Position.toPoint] at hx hz <;> omega

/-- The way to a cell that is not cut depends on the facing and the grid alone. -/
theorem Uncut.way_eq (h : Uncut origin facing extent) (hc : extent.Has cell) :
    way origin facing extent cell =
      frame facing (across extent cell) (Coord.wrap cell.row).val (reach extent cell).val := by
  have left (c : Coord) := leftPlace_eq c.natAbs_val_le (h.width_le hc) hc.column_lt
  have right (c : Coord) := rightPlace_eq c.natAbs_val_le (h.width_le hc) hc.column_lt
  rw [way, h.toPoint_locate hc]
  ext <;> cases facing <;>
    simp only [steps, frame, across, left, right, Position.toPoint, Point.sub_x, Point.sub_y,
      Point.sub_z] <;>
    omega

/-- Where the geometry is exact and fits, nothing is cut. -/
theorem Fits.uncut (h : Fits origin facing extent) : Uncut origin facing extent := by
  intro cell hc
  rw [steps_eq_exact origin facing h.bounded hc]
  exact h.inWorld cell hc

end VoxelTemplate.Geometry
