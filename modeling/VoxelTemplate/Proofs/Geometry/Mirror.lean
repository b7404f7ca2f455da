import VoxelTemplate.Proofs.Geometry.Turning
import Mathlib.LinearAlgebra.Matrix.Determinant.Basic

/-! Whether a structure keeps its handedness when it faces another way. Facing north and south it is
turned about the origin; facing east and west it is turned and seen in a mirror. -/
namespace VoxelTemplate.Geometry
open Matrix

def quarterTurn : Matrix (Fin 2) (Fin 2) Int := !![0, -1; 1, 0]

/-- A turn of the plane by a whole number of quarters. -/
def IsRotation (m : Matrix (Fin 2) (Fin 2) Int) : Prop := ∃ quarters : Nat, m = quarterTurn ^ quarters

/-- Left and right change places. -/
def mirror : Matrix (Fin 2) (Fin 2) Int := !![-1, 0; 0, 1]

theorem IsRotation.det_eq_one {m : Matrix (Fin 2) (Fin 2) Int} (h : IsRotation m) : m.det = 1 := by
  obtain ⟨quarters, rfl⟩ := h
  have quarter : quarterTurn.det = 1 := by simp [quarterTurn, det_fin_two]
  rw [det_pow, quarter, one_pow]

/-- A map takes every cell of every grid about its origin from where it is facing north to where it
is for another facing, at the same height. No bound is set on the grid, as long as no cell of it is
cut. -/
def Takes (m : Matrix (Fin 2) (Fin 2) Int) (facing : Facing) : Prop :=
  ∀ (origin : Position) (extent : Extent) (cell : Cell), Uncut origin .north extent →
    Uncut origin facing extent → extent.Has cell →
      m *ᵥ (way origin .north extent cell).plane = (way origin facing extent cell).plane ∧
        (way origin facing extent cell).y = (way origin .north extent cell).y

theorem takes_turn (facing : Facing) : Takes (turn facing) facing := by
  intro origin extent cell north there hc
  rw [north.way_eq hc, there.way_eq hc, frame_y, frame_y]
  exact ⟨turn_mulVec_frame .., rfl⟩

theorem uncut_row_of_two (facing : Facing) :
    Uncut ⟨{ val := 0 }, { val := 64 }, { val := 0 }⟩ facing ⟨1, 1, 2⟩ :=
  Fits.uncut (.of_room ⟨by decide, by decide, by decide⟩ (by decide) (by decide) (by decide))

/-- A row of two cells tells what becomes of the plane. -/
theorem eq_turn_of_row {m : Matrix (Fin 2) (Fin 2) Int} {facing : Facing} {origin : Position}
    (north : Uncut origin .north ⟨1, 1, 2⟩) (there : Uncut origin facing ⟨1, 1, 2⟩)
    (h : ∀ cell, Extent.Has ⟨1, 1, 2⟩ cell →
      m *ᵥ (way origin .north ⟨1, 1, 2⟩ cell).plane = (way origin facing ⟨1, 1, 2⟩ cell).plane) :
    m = turn facing := by
  have left : Extent.Has ⟨1, 1, 2⟩ ⟨0, 0, 0⟩ := ⟨by decide, by decide, by decide⟩
  have right : Extent.Has ⟨1, 1, 2⟩ ⟨0, 0, 1⟩ := ⟨by decide, by decide, by decide⟩
  have ahead := h _ right
  have aside := h _ left
  rw [north.way_eq right, there.way_eq right] at ahead
  rw [north.way_eq left, there.way_eq left] at aside
  exact eq_turn_of_frame ahead aside

theorem eq_turn_of_takes {m : Matrix (Fin 2) (Fin 2) Int} {facing : Facing} (h : Takes m facing) :
    m = turn facing := by
  have north := uncut_row_of_two .north
  have there := uncut_row_of_two facing
  exact eq_turn_of_row north there fun cell hc => (h _ _ _ north there hc).1

/-- East and west: a quarter turn one way or the other, of the mirror image. -/
theorem turn_eq_rotation_mul_mirror {facing : Facing} (hf : facing = .east ∨ facing = .west) :
    ∃ r, IsRotation r ∧ turn facing = r * mirror := by
  rcases hf with rfl | rfl
  · exact ⟨_, ⟨1, rfl⟩, by decide⟩
  · exact ⟨_, ⟨3, rfl⟩, by decide⟩

theorem det_turn {facing : Facing} (hf : facing = .east ∨ facing = .west) :
    (turn facing).det = -1 := by
  rcases hf with rfl | rfl <;> simp [turn, det_fin_two]

theorem isRotation_turn_iff (facing : Facing) :
    IsRotation (turn facing) ↔ facing = .north ∨ facing = .south := by
  constructor
  · intro h
    by_contra hn
    have sideways : facing = .east ∨ facing = .west := by cases facing <;> simp_all
    have := h.det_eq_one.symm.trans (det_turn sideways)
    contradiction
  · rintro (rfl | rfl)
    · exact ⟨0, by decide⟩
    · exact ⟨2, by decide⟩

/-- One map of the plane takes every structure from north to a facing. It is a rotation for north
and south; for east and west it is a rotation after a mirror. -/
theorem isRotation_iff_of_takes (facing : Facing) :
    (∃! m, Takes m facing) ∧ ∀ m, Takes m facing →
      (IsRotation m ↔ facing = .north ∨ facing = .south) ∧
      (facing = .east ∨ facing = .west → m.det = -1 ∧ ∃ r, IsRotation r ∧ m = r * mirror) := by
  refine ⟨⟨turn facing, takes_turn facing, fun m hm => eq_turn_of_takes hm⟩, ?_⟩
  intro m hm
  obtain rfl := eq_turn_of_takes hm
  exact ⟨isRotation_turn_iff facing, fun hf => ⟨det_turn hf, turn_eq_rotation_mul_mirror hf⟩⟩

/-- No rotation takes a row of two blocks from north to east. -/
theorem row_of_two_not_rotated :
    let origin : Position := ⟨{ val := 0 }, { val := 64 }, { val := 0 }⟩
    let extent : Extent := ⟨1, 1, 2⟩
    Uncut origin .north extent ∧ Uncut origin .east extent ∧
      ¬ ∃ m, IsRotation m ∧ ∀ cell, extent.Has cell →
        m *ᵥ (way origin .north extent cell).plane = (way origin .east extent cell).plane := by
  intro origin extent
  have north : Uncut origin .north extent := uncut_row_of_two .north
  have east : Uncut origin .east extent := uncut_row_of_two .east
  refine ⟨north, east, ?_⟩
  rintro ⟨m, rotation, h⟩
  obtain rfl := eq_turn_of_row north east h
  have := (isRotation_turn_iff .east).1 rotation
  simp at this

end VoxelTemplate.Geometry
