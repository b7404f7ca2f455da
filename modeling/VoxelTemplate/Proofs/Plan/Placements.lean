import VoxelTemplate.Plan
import VoxelTemplate.Proofs.Geometry.Exact

/-! The placements of a plan as a rearrangement of the cells of its template. -/
namespace VoxelTemplate.Plan

variable (template : Template) (anchor : Position) (facing : Facing) (settings : Settings)

/-- The specification of a cell, turned to the facing. -/
def resolved (cell : Cell) : Spec :=
  (Spec.read settings facing (rawSpec template settings cell).1).1

/-- What a cell comes to in the plan of a template. -/
def placed (cell : Cell) : Placement :=
  (place template (Geometry.origin anchor facing template.offset) facing settings cell).1

@[simp] theorem placed_cell (cell : Cell) :
    (placed template anchor facing settings cell).cell = cell := rfl

@[simp] theorem placed_position (cell : Cell) :
    (placed template anchor facing settings cell).position =
      Geometry.locate (Geometry.origin anchor facing template.offset) facing template.extent cell :=
  rfl

@[simp] theorem placed_action (cell : Cell) :
    (placed template anchor facing settings cell).action =
      (resolved template facing settings cell).action := rfl

theorem solid_or_attachment (placements : List Placement) :
    (placements.filter (·.pass = .solid) ++ placements.filter (·.pass = .attachment)).Perm
      placements := by
  have h : (placements.filter (·.pass = .attachment)) =
      placements.filter (fun placement => !decide (placement.pass = .solid)) := by
    apply List.filter_congr
    intro placement _
    cases placement.pass <;> rfl
  rw [h]
  exact List.filter_append_perm _ _

/-- The two passes together hold every cell once. -/
theorem placements_perm :
    (make template anchor facing settings).placements.Perm
      (template.extent.cells.map (placed template anchor facing settings)) := by
  refine (solid_or_attachment _).trans ?_
  simp only [List.map_map]
  exact .refl _

theorem mem_placements {placement : Placement} :
    placement ∈ (make template anchor facing settings).placements ↔
      ∃ cell, template.extent.Has cell ∧ placed template anchor facing settings cell = placement := by
  simp only [(placements_perm template anchor facing settings).mem_iff, List.mem_map,
    Extent.mem_cells]

end VoxelTemplate.Plan
