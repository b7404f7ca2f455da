import VoxelTemplate.Proofs.Geometry.Steps
import Mathlib.LinearAlgebra.Matrix.Notation
import Mathlib.Tactic.FinCases

/-! How a structure turns from north to the other facings, and whether the authored offset turns
with it. It does for south. For east and west the offset goes the opposite way. -/
namespace VoxelTemplate
open Matrix

/-- The horizontal part of a way: along `x`, then along `z`. -/
def Point.plane (p : Point) : Fin 2 → Int := ![p.x, p.z]

theorem Point.plane_inj {p q : Point} : p.plane = q.plane ↔ p.x = q.x ∧ p.z = q.z := by
  simp [plane]

theorem mulVec_plane (m : Matrix (Fin 2) (Fin 2) Int) (p : Point) :
    m *ᵥ p.plane =
      Point.plane ⟨m 0 0 * p.x + m 0 1 * p.z, p.y, m 1 0 * p.x + m 1 1 * p.z⟩ := by
  funext i
  fin_cases i <;> simp [mulVec, dotProduct, Fin.sum_univ_two, Point.plane]

namespace Geometry

/-- The linear map of the plane that turns a structure from north to a facing. -/
def turn : Facing → Matrix (Fin 2) (Fin 2) Int
  | .north => !![1, 0; 0, 1]
  | .south => !![-1, 0; 0, -1]
  | .east => !![0, -1; -1, 0]
  | .west => !![0, 1; 1, 0]

/-- A map carries the way from the origin to a cell, facing north, to its way for another facing,
for all cells of all grids. -/
def Carries (m : Matrix (Fin 2) (Fin 2) Int) (facing : Facing) : Prop :=
  ∀ (here there : Position) (extent : Extent) (cell : Cell),
    Fits here .north extent → Fits there facing extent → extent.Has cell →
    m *ᵥ ((locate here .north extent cell).toPoint - here.toPoint).plane =
      ((locate there facing extent cell).toPoint - there.toPoint).plane

theorem Fits.way {origin : Position} {facing : Facing} {extent : Extent} {cell : Cell}
    (h : Fits origin facing extent) (hc : extent.Has cell) :
    (locate origin facing extent cell).toPoint - origin.toPoint = shift facing extent cell := by
  rw [h.toPoint_locate hc, Point.add_sub_self]

theorem turn_mulVec_frame (facing : Facing) (left up ahead : Int) :
    turn facing *ᵥ (frame .north left up ahead).plane = (frame facing left up ahead).plane := by
  rw [mulVec_plane, Point.plane_inj]
  cases facing <;> simp [turn, frame]

theorem turn_mulVec_shift (facing : Facing) (extent : Extent) (cell : Cell) :
    turn facing *ᵥ (shift .north extent cell).plane = (shift facing extent cell).plane := by
  rw [shift_eq_frame, shift_eq_frame, turn_mulVec_frame]

theorem carries_turn (facing : Facing) : Carries (turn facing) facing := by
  intro here there extent cell hn hf hc
  rw [hn.way hc, hf.way hc, turn_mulVec_shift]

/-- The places ahead and one to the left of there span the plane. -/
theorem eq_turn_of_frame {m : Matrix (Fin 2) (Fin 2) Int} {facing : Facing}
    (ahead : m *ᵥ (frame .north 0 0 1).plane = (frame facing 0 0 1).plane)
    (aside : m *ᵥ (frame .north 1 0 1).plane = (frame facing 1 0 1).plane) : m = turn facing := by
  rw [← turn_mulVec_frame facing] at ahead aside
  simp only [mulVec_plane, Point.plane_inj, frame] at ahead aside
  ext i j
  fin_cases i <;> fin_cases j <;> simp only [Fin.zero_eta, Fin.mk_one] <;> omega

/-- One cell and a row of two cells are enough to tell a map of the plane. -/
theorem eq_turn_of_carries {m : Matrix (Fin 2) (Fin 2) Int} {facing : Facing}
    (h : Carries m facing) : m = turn facing := by
  let centre : Position := ⟨.zero, .zero, .zero⟩
  have agree (extent : Extent) (hb : extent.Bounded) (hw : extent.depth + extent.width ≤ 3)
      (hc : extent.Has ⟨0, 0, 0⟩) : m *ᵥ (shift .north extent ⟨0, 0, 0⟩).plane =
        (shift facing extent ⟨0, 0, 0⟩).plane := by
    have := hb.height_le
    have fits (f : Facing) : Fits centre f extent :=
      .of_room hb (by simp [centre, Coord.zero]; omega) (by simp [centre, Coord.zero]; omega)
        (by simp [centre, Coord.zero]; omega)
    have he := h centre centre extent _ (fits .north) (fits facing) hc
    rwa [(fits .north).way hc, (fits facing).way hc] at he
  have one : Extent.Bounded ⟨1, 1, 1⟩ := ⟨by decide, by decide, by decide⟩
  have two : Extent.Bounded ⟨1, 1, 2⟩ := ⟨by decide, by decide, by decide⟩
  have ahead := agree ⟨1, 1, 1⟩ one (by decide) ⟨by decide, by decide, by decide⟩
  have aside := agree ⟨1, 1, 2⟩ two (by decide) ⟨by decide, by decide, by decide⟩
  rw [shift_eq_frame, shift_eq_frame] at ahead aside
  exact eq_turn_of_frame ahead aside

/-- The offset as it is added to the anchor, over the whole numbers. -/
def turnedOffset (facing : Facing) (offset : Offset) : Point :=
  let ⟨x, y, z⟩ := offset
  match facing with
  | .north => ⟨x.val, y.val, z.val⟩
  | .south => ⟨-x.val, y.val, -z.val⟩
  | .east => ⟨z.val, y.val, x.val⟩
  | .west => ⟨-z.val, y.val, -x.val⟩

/-- Neither the turned offset nor the origin is cut. -/
structure OriginFits (anchor : Position) (facing : Facing) (offset : Offset) : Prop where
  turned : (turnedOffset facing offset).InWorld
  moved : (anchor.toPoint + turnedOffset facing offset).InWorld

variable {anchor : Position} {facing : Facing} {offset : Offset} {extent : Extent} {cell : Cell}

theorem OriginFits.toPoint_origin (h : OriginFits anchor facing offset) :
    (origin anchor facing offset).toPoint = anchor.toPoint + turnedOffset facing offset := by
  obtain ⟨⟨hx, hy, hz⟩, ⟨hx', hy', hz'⟩⟩ := h
  ext <;> cases facing <;>
    simp only [turnedOffset, Position.toPoint, Point.add_x, Point.add_y, Point.add_z] at * <;>
    simp only [origin, Position.move, Coord.add, Coord.neg, Coord.val_clamp] <;>
    omega

/-- The way from the anchor to the origin. -/
def originWay (anchor : Position) (facing : Facing) (offset : Offset) : Point :=
  (origin anchor facing offset).toPoint - anchor.toPoint

/-- The way from the anchor to a cell. -/
def cellWay (anchor : Position) (facing : Facing) (offset : Offset) (extent : Extent)
    (cell : Cell) : Point :=
  (locate (origin anchor facing offset) facing extent cell).toPoint - anchor.toPoint

theorem OriginFits.originWay_eq (h : OriginFits anchor facing offset) :
    originWay anchor facing offset = turnedOffset facing offset := by
  rw [originWay, h.toPoint_origin, Point.add_sub_self]

theorem OriginFits.cellWay_eq (h : OriginFits anchor facing offset)
    (hf : Fits (origin anchor facing offset) facing extent) (hc : extent.Has cell) :
    cellWay anchor facing offset extent cell =
      turnedOffset facing offset + shift facing extent cell := by
  rw [cellWay, Point.sub_eq_add_sub h.toPoint_origin, hf.way hc]

theorem turn_offset_iff (facing : Facing) (offset : Offset) :
    turn facing *ᵥ (turnedOffset .north offset).plane = (turnedOffset facing offset).plane ↔
      facing = .north ∨ facing = .south ∨ offset.x = .zero ∧ offset.z = .zero := by
  have zero_iff (c : Coord) : c = .zero ↔ c.val = 0 := Coord.ext_iff
  rw [mulVec_plane, Point.plane_inj, zero_iff, zero_iff]
  cases facing <;> simp [turn, turnedOffset] <;> omega

/-- What turns with the structure stays so when the way to a cell is added. -/
theorem turn_way_to_cell_iff (facing : Facing) (offset : Offset) (extent : Extent) (cell : Cell) :
    turn facing *ᵥ (turnedOffset .north offset + shift .north extent cell).plane =
        (turnedOffset facing offset + shift facing extent cell).plane ↔
      turn facing *ᵥ (turnedOffset .north offset).plane = (turnedOffset facing offset).plane := by
  have plane_add (p q : Point) : (p + q).plane = p.plane + q.plane := by simp [Point.plane]
  rw [plane_add, plane_add, mulVec_add, turn_mulVec_shift, add_left_inj]

/-- Facing east or west the offset goes against the structure. -/
theorem turn_offset_neg (hf : facing = .east ∨ facing = .west) :
    turn facing *ᵥ (turnedOffset .north offset).plane = -(turnedOffset facing offset).plane := by
  rw [mulVec_plane]
  rcases hf with rfl | rfl <;> simp [turn, turnedOffset, Point.plane]

/-- One map of the plane turns all structures from north to a facing. The authored offset turns by
it, and with it every cell about the anchor, just for north and south or where there is no
horizontal offset; for east and west it turns by the opposite of the map. Heights stay. -/
theorem offset_turns_iff (north : OriginFits anchor .north offset)
    (there : OriginFits anchor facing offset) :
    (∃! m, Carries m facing) ∧ ∀ m, Carries m facing →
      (originWay anchor facing offset).y = (originWay anchor .north offset).y ∧
      (m *ᵥ (originWay anchor .north offset).plane = (originWay anchor facing offset).plane ↔
        facing = .north ∨ facing = .south ∨ offset.x = .zero ∧ offset.z = .zero) ∧
      (facing = .east ∨ facing = .west →
        m *ᵥ (originWay anchor .north offset).plane = -(originWay anchor facing offset).plane) ∧
      ∀ extent cell, Fits (origin anchor .north offset) .north extent →
        Fits (origin anchor facing offset) facing extent → extent.Has cell →
        (cellWay anchor facing offset extent cell).y =
          (cellWay anchor .north offset extent cell).y ∧
        (m *ᵥ (cellWay anchor .north offset extent cell).plane =
            (cellWay anchor facing offset extent cell).plane ↔
          facing = .north ∨ facing = .south ∨ offset.x = .zero ∧ offset.z = .zero) := by
  refine ⟨⟨turn facing, carries_turn facing, fun m hm => eq_turn_of_carries hm⟩, ?_⟩
  intro m hm
  obtain rfl := eq_turn_of_carries hm
  have offset_y : (turnedOffset facing offset).y = (turnedOffset .north offset).y := by
    cases facing <;> rfl
  have shift_y (extent : Extent) (cell : Cell) :
      (shift facing extent cell).y = (shift .north extent cell).y := by cases facing <;> rfl
  rw [north.originWay_eq, there.originWay_eq]
  refine ⟨offset_y, turn_offset_iff facing offset, turn_offset_neg, ?_⟩
  intro extent cell hn hf hc
  rw [north.cellWay_eq hn hc, there.cellWay_eq hf hc]
  refine ⟨by rw [Point.add_y, Point.add_y, offset_y, shift_y], ?_⟩
  exact (turn_way_to_cell_iff facing offset extent cell).trans (turn_offset_iff facing offset)

/-- Facing west, an offset off both axes goes against every structure. -/
theorem offset_turns_iff_west :
    let anchor : Position := ⟨{ val := 10 }, { val := 64 }, { val := -7 }⟩
    let offset : Offset := ⟨{ val := 2 }, { val := -1 }, { val := 3 }⟩
    OriginFits anchor .north offset ∧ OriginFits anchor .west offset ∧ (∃! m, Carries m .west) ∧
      ∀ m, Carries m .west →
        (originWay anchor .west offset).y = (originWay anchor .north offset).y ∧
        m *ᵥ (originWay anchor .north offset).plane ≠ (originWay anchor .west offset).plane ∧
        m *ᵥ (originWay anchor .north offset).plane = -(originWay anchor .west offset).plane := by
  intro anchor offset
  have north : OriginFits anchor .north offset :=
    ⟨⟨by decide, by decide, by decide⟩, ⟨by decide, by decide, by decide⟩⟩
  have west : OriginFits anchor .west offset :=
    ⟨⟨by decide, by decide, by decide⟩, ⟨by decide, by decide, by decide⟩⟩
  obtain ⟨unique, turned⟩ := offset_turns_iff north west
  refine ⟨north, west, unique, ?_⟩
  intro m hm
  obtain ⟨height, iff, against, -⟩ := turned m hm
  exact ⟨height, fun he => absurd (iff.1 he) (by decide), against (.inr rfl)⟩

/-- Two blocks ahead for a structure that faces north is two blocks behind facing east. -/
theorem offset_east_not_turned :
    let anchor : Position := ⟨{ val := 0 }, { val := 64 }, { val := 0 }⟩
    let offset : Offset := ⟨{ val := 0 }, { val := 0 }, { val := 2 }⟩
    OriginFits anchor .north offset ∧ OriginFits anchor .east offset ∧
      ∃ m, Carries m .east ∧ m *ᵥ (originWay anchor .north offset).plane = ![-2, 0] ∧
        (originWay anchor .east offset).plane = ![2, 0] := by
  refine ⟨⟨⟨by decide, by decide, by decide⟩, ⟨by decide, by decide, by decide⟩⟩,
    ⟨⟨by decide, by decide, by decide⟩, ⟨by decide, by decide, by decide⟩⟩,
    turn .east, carries_turn .east, ?_, by decide⟩
  decide

end Geometry
end VoxelTemplate
