import VoxelTemplate.Proofs.Geometry.Steps
import Mathlib.Data.Set.Function

/-! The room that a structure fills: a box without gaps, one cell to each of its places. Half a row
lies on either side of the origin; an even number of columns stands one place to the left. -/
namespace VoxelTemplate

theorem Point.add_left_cancel {p q r : Point} (h : p + q = p + r) : q = r := by
  have way : p + q - p = p + r - p := congrArg (fun s => s - p) h
  rwa [add_sub_self, add_sub_self] at way

/-- Between two corners on every axis, the corners included. -/
structure Point.Between (p low high : Point) : Prop where
  x : low.x ≤ p.x ∧ p.x ≤ high.x
  y : low.y ≤ p.y ∧ p.y ≤ high.y
  z : low.z ≤ p.z ∧ p.z ≤ high.z

/-- The coordinate on the axis along which the layers of a structure follow each other. -/
def Facing.along (facing : Facing) (p : Point) : Int :=
  match facing with
  | north | south => p.z
  | east | west => p.x

/-- The coordinate on the axis of the columns of a row. -/
def Facing.aside (facing : Facing) (p : Point) : Int :=
  match facing with
  | north | south => p.x
  | east | west => p.z

namespace Geometry

/-- The smaller and the greater corner of the room. -/
def room (origin : Position) (facing : Facing) (extent : Extent) : Point × Point :=
  let ⟨x, y, z⟩ := origin.toPoint
  let less : Int := ⌊(extent.width : Rat) / 2⌋
  let more : Int := ⌈(extent.width : Rat) / 2⌉
  let top := y + extent.height - 1
  match facing with
  | .north => (⟨x - more + 1, y, z + 1⟩, ⟨x + less, top, z + extent.depth⟩)
  | .south => (⟨x - less, y, z - extent.depth⟩, ⟨x + more - 1, top, z - 1⟩)
  | .east => (⟨x - extent.depth, y, z - less⟩, ⟨x - 1, top, z + more - 1⟩)
  | .west => (⟨x + 1, y, z - more + 1⟩, ⟨x + extent.depth, top, z + less⟩)

theorem floor_half_width (width : Nat) : ⌊(width : Rat) / 2⌋ = (width : Int) / 2 :=
  Rat.floor_intCast_div_natCast (width : Int) 2

theorem ceil_half_width (width : Nat) : ⌈(width : Rat) / 2⌉ = (width : Int) - width / 2 := by
  have other : (width : Rat) / 2 = -(width / 2) + (width : Int) := by push_cast; ring
  rw [other, Int.ceil_add_intCast, Int.ceil_neg, floor_half_width]
  omega

theorem exists_frame (facing : Facing) (p : Point) :
    ∃ left up ahead, frame facing left up ahead = p := by
  obtain ⟨x, y, z⟩ := p
  cases facing with
  | north => exact ⟨x, y, z, rfl⟩
  | south => exact ⟨-x, y, -z, by simp [frame]⟩
  | east => exact ⟨-z, y, -x, by simp [frame]⟩
  | west => exact ⟨z, y, x, rfl⟩

section Frame

variable (origin : Position) (facing : Facing) (extent : Extent)

/-- Which places of the frame of a facing are in the room does not depend on the facing. -/
theorem between_room_iff (left up ahead : Int) :
    (origin.toPoint + frame facing left up ahead).Between (room origin facing extent).1
        (room origin facing extent).2 ↔
      (extent.width / 2 - extent.width < left ∧ left ≤ extent.width / 2) ∧
        (0 ≤ up ∧ up < extent.height) ∧ 1 ≤ ahead ∧ ahead ≤ extent.depth := by
  constructor
  · rintro ⟨hx, hy, hz⟩
    cases facing <;>
      simp only [room, frame, floor_half_width, ceil_half_width, Point.add_x, Point.add_y,
        Point.add_z] at hx hy hz <;>
      omega
  · intro h
    constructor <;> cases facing <;>
      simp only [room, frame, floor_half_width, ceil_half_width, Point.add_x, Point.add_y,
        Point.add_z] <;>
      omega

variable {origin facing extent}

theorem shift_between_room {cell : Cell} (hc : extent.Has cell) :
    (origin.toPoint + shift facing extent cell).Between (room origin facing extent).1
      (room origin facing extent).2 := by
  have := hc.layer_lt
  have := hc.row_lt
  have := hc.column_lt
  rw [shift_eq_frame, between_room_iff, across, away]
  omega

/-- Every place of the room belongs to a cell. -/
theorem exists_cell_of_between {p : Point}
    (hp : p.Between (room origin facing extent).1 (room origin facing extent).2) :
    ∃ cell, extent.Has cell ∧ origin.toPoint + shift facing extent cell = p := by
  have way : p = origin.toPoint + (p - origin.toPoint) := by
    ext <;> simp only [Point.add_x, Point.add_y, Point.add_z, Point.sub_x, Point.sub_y,
      Point.sub_z] <;> omega
  obtain ⟨left, up, ahead, he⟩ := exists_frame facing (p - origin.toPoint)
  rw [way, ← he] at hp ⊢
  obtain ⟨hl, hu, ha⟩ := (between_room_iff ..).1 hp
  -- The bounds are those that make these three indices of the grid, for either parity of the width.
  let cell : Cell :=
    ⟨(extent.depth - ahead).toNat, up.toNat, (extent.width / 2 - left).toNat⟩
  have hacross : across extent cell = left := by
    show (extent.width : Int) / 2 - (extent.width / 2 - left).toNat = left
    omega
  have haway : away extent cell = ahead := by
    show (extent.depth : Int) - (extent.depth - ahead).toNat = ahead
    omega
  have hrow : (cell.row : Int) = up := by
    show (up.toNat : Int) = up
    omega
  refine ⟨cell, ⟨?_, ?_, ?_⟩, ?_⟩
  · unfold away at haway
    omega
  · omega
  · unfold across at hacross
    omega
  · rw [shift_eq_frame, hacross, haway, hrow]

variable (origin facing extent)

/-- The exact places of the cells are those of the room, each once. -/
theorem bijOn_room : Set.BijOn (fun cell => origin.toPoint + shift facing extent cell)
    {cell | extent.Has cell}
    {p | p.Between (room origin facing extent).1 (room origin facing extent).2} := by
  refine ⟨fun _ hc => shift_between_room hc, ?_, fun _ hp => exists_cell_of_between hp⟩
  intro cell _ other _ he
  exact shift_injective facing extent (Point.add_left_cancel he)

end Frame

variable {origin : Position} {facing : Facing} {extent : Extent}

/-- While no cell is cut, the cells fill the room, and no two of them lie in one place. The room
is as deep, as high and as wide as the grid, and it leaves out the row of the origin. -/
theorem fills_room (h : Fits origin facing extent) :
    let low := (room origin facing extent).1
    let high := (room origin facing extent).2
    Set.BijOn (fun cell => (locate origin facing extent cell).toPoint) {cell | extent.Has cell}
        {p | p.Between low high} ∧
      facing.along high - facing.along low + 1 = extent.depth ∧
      high.y - low.y + 1 = extent.height ∧
      facing.aside high - facing.aside low + 1 = extent.width ∧
      ∀ cell, extent.Has cell →
        facing.along (locate origin facing extent cell).toPoint ≠ facing.along origin.toPoint := by
  intro low high
  refine ⟨?_, ?_, ?_, ?_, ?_⟩
  · exact (bijOn_room origin facing extent).congr fun cell hc => (h.toPoint_locate hc).symm
  · cases facing <;> simp only [low, high, room, Facing.along] <;> omega
  · cases facing <;> simp only [low, high, room] <;> omega
  · cases facing <;>
      simp only [low, high, room, Facing.aside, floor_half_width, ceil_half_width] <;> omega
  · intro cell hc
    have := hc.layer_lt
    rw [h.toPoint_locate hc]
    cases facing <;> simp only [Facing.along, shift, away, Point.add_x, Point.add_z, ne_eq] <;>
      omega

/-- Three layers of four columns, and two of five, about an origin with a negative coordinate. -/
theorem fills_room_even_odd :
    let origin : Position := ⟨.zero, { val := 64 }, { val := -7 }⟩
    (Fits origin .south ⟨3, 2, 4⟩ ∧ room origin .south ⟨3, 2, 4⟩ = (⟨-2, 64, -10⟩, ⟨1, 65, -8⟩) ∧
      Set.BijOn (fun cell => (locate origin .south ⟨3, 2, 4⟩ cell).toPoint)
        {cell | Extent.Has ⟨3, 2, 4⟩ cell} {p | p.Between ⟨-2, 64, -10⟩ ⟨1, 65, -8⟩}) ∧
    Fits origin .west ⟨2, 1, 5⟩ ∧ room origin .west ⟨2, 1, 5⟩ = (⟨1, 64, -9⟩, ⟨2, 64, -5⟩) ∧
      Set.BijOn (fun cell => (locate origin .west ⟨2, 1, 5⟩ cell).toPoint)
        {cell | Extent.Has ⟨2, 1, 5⟩ cell} {p | p.Between ⟨1, 64, -9⟩ ⟨2, 64, -5⟩} := by
  intro origin
  have even : Fits origin .south ⟨3, 2, 4⟩ :=
    .of_room ⟨by decide, by decide, by decide⟩ (by decide) (by decide) (by decide)
  have odd : Fits origin .west ⟨2, 1, 5⟩ :=
    .of_room ⟨by decide, by decide, by decide⟩ (by decide) (by decide) (by decide)
  have even_room : room origin .south ⟨3, 2, 4⟩ = (⟨-2, 64, -10⟩, ⟨1, 65, -8⟩) := by
    simp only [room, floor_half_width, ceil_half_width]
    rfl
  have odd_room : room origin .west ⟨2, 1, 5⟩ = (⟨1, 64, -9⟩, ⟨2, 64, -5⟩) := by
    simp only [room, floor_half_width, ceil_half_width]
    rfl
  have even_fills := (fills_room even).1
  have odd_fills := (fills_room odd).1
  rw [even_room] at even_fills
  rw [odd_room] at odd_fills
  exact ⟨⟨even, even_room, even_fills⟩, odd, odd_room, odd_fills⟩

end Geometry
end VoxelTemplate
