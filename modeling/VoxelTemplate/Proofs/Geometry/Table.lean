import VoxelTemplate.Proofs.Geometry.Steps

/-! The table of the facings beside the positions that are computed. Up to the ends of the range of
a world no step loses a digit, so cutting to that range is the only thing that can part a position
from the table. -/
namespace VoxelTemplate.Geometry

/-- No number on the way to a cell is rounded, and none runs over its 32 bits. -/
structure Lossless (origin : Position) (extent : Extent) (cell : Cell) : Prop where
  x : Unrounded origin.x.val extent.width cell.column
  z : Unrounded origin.z.val extent.width cell.column
  row : (Coord.wrap cell.row).val = cell.row
  reach : (reach extent cell).val = extent.depth - cell.layer
  /-- No cell lies on the row of the origin. -/
  reach_pos : 0 < (Geometry.reach extent cell).val

theorem lossless (origin : Position) {extent : Extent} {cell : Cell} (hb : extent.Bounded)
    (hc : extent.Has cell) : Lossless origin extent cell := by
  have reach := reach_val hb hc
  have ahead := hc.layer_lt
  refine ⟨unrounded origin.x.natAbs_val_le hb.width_le hc.column_lt,
    unrounded origin.z.natAbs_val_le hb.width_le hc.column_lt, row_val hb hc, reach, ?_⟩
  rw [reach, away]
  omega

/-- Each coordinate of a cell is the number of the table, cut to the range of a world. The cut is
the last step: the numbers before it are those of the table, and all that lead to them are whole. -/
theorem locate_clamps_table (origin : Position) (facing : Facing) {extent : Extent} {cell : Cell}
    (hb : extent.Bounded) (hc : extent.Has cell) :
    let place := exact origin facing extent cell
    let position := locate origin facing extent cell
    (position.x = .clamp place.x ∧ position.y = .clamp place.y ∧ position.z = .clamp place.z) ∧
      steps origin facing extent cell = place ∧ Lossless origin extent cell := by
  intro place position
  have cut : position = place.clamp := locate_eq_clamp origin facing hb hc
  rw [cut]
  exact ⟨⟨rfl, rfl, rfl⟩, steps_eq_exact origin facing hb hc, lossless origin hb hc⟩

/-- An origin in a corner of the world, with rows of five columns that leave it on one side or on
the other, by the facing. -/
theorem locate_clamps_table_corner :
    let origin : Position := ⟨{ val := 2147483646 }, .greatest, .least⟩
    let extent : Extent := ⟨3, 2, 5⟩
    let cell : Cell := ⟨0, 1, 0⟩
    extent.Bounded ∧ extent.Has cell ∧
      exact origin .west extent cell = ⟨2147483649, 2147483648, -2147483646⟩ ∧
      locate origin .west extent cell = ⟨.greatest, .greatest, { val := -2147483646 }⟩ ∧
      exact origin .east extent cell = ⟨2147483643, 2147483648, -2147483650⟩ ∧
      locate origin .east extent cell = ⟨{ val := 2147483643 }, .greatest, .least⟩ := by
  intro origin extent cell
  have bounded : extent.Bounded := ⟨by decide, by decide, by decide⟩
  have has : extent.Has cell := ⟨by decide, by decide, by decide⟩
  have west : exact origin .west extent cell = ⟨2147483649, 2147483648, -2147483646⟩ := by
    rw [exact_eq]
    decide
  have east : exact origin .east extent cell = ⟨2147483643, 2147483648, -2147483650⟩ := by
    rw [exact_eq]
    decide
  obtain ⟨⟨wx, wy, wz⟩, -, -⟩ := locate_clamps_table origin .west bounded has
  obtain ⟨⟨ex, ey, ez⟩, -, -⟩ := locate_clamps_table origin .east bounded has
  rw [west] at wx wy wz
  rw [east] at ex ey ez
  refine ⟨bounded, has, west, ?_, east, ?_⟩
  · rw [Position.mk.injEq]
    exact ⟨wx.trans (by decide), wy.trans (by decide), wz.trans (by decide)⟩
  · rw [Position.mk.injEq]
    exact ⟨ex.trans (by decide), ey.trans (by decide), ez.trans (by decide)⟩

end VoxelTemplate.Geometry
