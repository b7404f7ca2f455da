import VoxelTemplate.Proofs.Plan.Foundation
import VoxelTemplate.Proofs.World.Calls

/-! The order of the two corners of a foundation. A margin of zero or more keeps them in order, also
at the ends of a world. A margin below zero moves them towards each other, and past each other where
it takes away more than there is between the first and the last cell of the ground. -/
namespace VoxelTemplate

/-- The smaller coordinates come first, on every axis. -/
structure Foundation.Ordered (foundation : Foundation) : Prop where
  x : foundation.low.x.val ≤ foundation.high.x.val
  y : foundation.low.y.val ≤ foundation.high.y.val
  z : foundation.low.z.val ≤ foundation.high.z.val

/-- Two coordinates that a margin moves apart stay in order as long as the way between them and both
margins are not below zero together. -/
theorem Coord.sub_le_add_iff (a b margin : Coord) :
    ((a.min b).sub margin).val ≤ ((a.max b).add margin).val ↔
      0 ≤ ((a.val - b.val).natAbs : Int) + 2 * margin.val := by
  have := a.least_le
  have := a.le_greatest
  have := b.least_le
  have := b.le_greatest
  -- The smaller coordinate can be cut at the top only, and the greater at the bottom only, by a
  -- margin that has moved them past each other before.
  simp only [sub, add, val_clamp, val_min, val_max]
  omega

namespace Geometry

/-- How far the first and the last cell of the ground lie apart on an axis. -/
def groundSpan (origin : Position) (facing : Facing) (extent : Extent) (axis : Position → Coord) :
    Nat :=
  let near := locate origin facing extent ⟨0, 0, 0⟩
  let far := locate origin facing extent ⟨extent.depth - 1, 0, extent.width - 1⟩
  ((axis near).val - (axis far).val).natAbs

/-- On both axes the corners come from those two cells, and they lie on one level. -/
theorem footprint_ordered_iff (origin : Position) (facing : Facing) (extent : Extent)
    (margin : Coord) (block : Text) :
    Foundation.Ordered ⟨block, (footprint origin facing extent margin).1,
        (footprint origin facing extent margin).2⟩ ↔
      0 ≤ groundSpan origin facing extent Position.x + 2 * margin.val ∧
        0 ≤ groundSpan origin facing extent Position.z + 2 * margin.val := by
  rw [groundSpan, groundSpan, ← Coord.sub_le_add_iff, ← Coord.sub_le_add_iff]
  constructor
  · rintro ⟨x, -, z⟩
    exact ⟨x, z⟩
  · rintro ⟨x, z⟩
    exact ⟨x, Int.le_refl _, z⟩

variable {origin : Position} {facing : Facing} {extent : Extent}

/-- While the ground is not cut, it is as wide as a row of cells and as deep as the layers. -/
theorem GroundFits.groundSpan_iff (h : GroundFits origin facing extent) (hb : extent.Bounded)
    {cell : Cell} (hc : extent.Has cell) (margin : Int) :
    (0 ≤ groundSpan origin facing extent Position.x + 2 * margin ∧
        0 ≤ groundSpan origin facing extent Position.z + 2 * margin) ↔
      0 < extent.width + 2 * margin ∧ 0 < extent.depth + 2 * margin := by
  obtain ⟨first, last⟩ := hc.corners
  obtain ⟨near_x, near_z⟩ := h.val_locate hb first rfl
  obtain ⟨far_x, far_z⟩ := h.val_locate hb last rfl
  have := hc.layer_lt
  have := hc.column_lt
  -- The axis of the rows and that of the layers change places with the facing.
  cases facing <;>
    simp only [groundSpan, shift, across, away] at near_x near_z far_x far_z ⊢ <;>
    omega

end Geometry

section Fills

/-- Placements set blocks and summon entities. -/
theorem Placement.fill_not_mem_commands (placement : Placement) (block : Text)
    (low high : Position) : Command.fill block low high ∉ placement.commands := by
  unfold Placement.commands
  intro h
  cases ha : placement.action with
  | create name =>
    rw [ha] at h
    cases List.mem_singleton.1 h
  | summon entity count =>
    rw [ha] at h
    cases (List.mem_replicate.1 h).2

/-- The one region that a run fills is the foundation of its plan. -/
theorem Plan.fill_mem_run_iff (plan : Plan) (block : Text) (low high : Position) :
    Command.fill block low high ∈ (plan.run ({} : Script)).commands ↔
      plan.foundation = some ⟨block, low, high⟩ := by
  have recorded : (plan.run ({} : Script)).commands = plan.commands.toArray := by
    rw [Script.run_eq_extend]
    simp [Script.extend]
  rw [recorded, List.mem_toArray, commands, List.mem_append]
  constructor
  · rintro (ground | placed)
    · obtain ⟨foundation, hf, he⟩ := List.mem_map.1 ground
      obtain ⟨rfl, rfl, rfl⟩ := Command.fill.inj he
      exact Option.mem_toList.1 hf
    · obtain ⟨placement, -, hc⟩ := List.mem_flatMap.1 placed
      exact absurd hc (placement.fill_not_mem_commands block low high)
  · intro h
    refine .inl (List.mem_map.2 ⟨⟨block, low, high⟩, ?_, rfl⟩)
    exact Option.mem_toList.2 h

end Fills

namespace Plan

/-- The corners of a foundation, and so of the region that a run fills, are in order unless the margin
takes away more than there is between the first and the last cell of the ground, on either axis. No
margin from zero up does. While nothing is cut, a margin below zero does if twice its size reaches
the width of the structure or its depth. -/
theorem corners_ordered_iff {source : Text} {template : Template}
    (parsed : Template.parse source = .ok template) {base : Base} (given : base ∈ template.base)
    (anchor : Position) (facing : Facing) (settings : Settings) :
    let plan := make template anchor facing settings
    let extent := template.extent
    ∃ foundation margin, plan.foundation = some foundation ∧ base.AsksMargin margin ∧
      (∀ block low high, Command.fill block low high ∈ (plan.run ({} : Script)).commands ↔
        ⟨block, low, high⟩ = foundation) ∧
      (foundation.Ordered ↔
        0 ≤ Geometry.groundSpan plan.origin facing extent Position.x + 2 * margin ∧
          0 ≤ Geometry.groundSpan plan.origin facing extent Position.z + 2 * margin) ∧
      (0 ≤ margin → foundation.Ordered) ∧
      (extent.Bounded → Geometry.GroundFits plan.origin facing extent →
        (foundation.Ordered ↔ 0 < extent.width + 2 * margin ∧ 0 < extent.depth + 2 * margin)) := by
  intro plan extent
  have first : extent.Has ⟨0, 0, 0⟩ :=
    let ⟨depth, height, width⟩ := (Template.isGrid_of_parse parsed).extent_pos
    ⟨depth, height, width⟩
  have laid := foundation_make anchor facing settings given
  have ordered := Geometry.footprint_ordered_iff plan.origin facing extent (margin base).1 base.block
  refine ⟨_, _, laid, (base.asksMargin_iff _).2 rfl, ?_, ordered, ?_, ?_⟩
  · intro block low high
    rw [fill_mem_run_iff, laid, Option.some.injEq, eq_comm]
  · intro grown
    rw [ordered]
    omega
  · intro bounded fits
    rw [ordered]
    exact fits.groundSpan_iff bounded first (margin base).1.val

/-- Of four columns and three layers a margin of minus one leaves a foundation, two places by one. -/
theorem corners_ordered_iff_shrunk :
    let source := Text.ofLines
      ["a=stone", "> base dirt margin:-1", " a a a a", " a a a a", " a a a a"]
    let middle : Position := ⟨.zero, { val := 64 }, { val := -9 }⟩
    ∃ template foundation, Template.parse source = .ok template ∧ template.base.isSome ∧
      (make template middle .east .default).foundation = some foundation ∧ foundation.Ordered ∧
      Command.fill foundation.block foundation.low foundation.high ∈
        ((make template middle .east .default).run ({} : Script)).commands := by
  intro source middle
  let template := Template.ofLines (Line.ofSource source)
  have parsed : Template.parse source = .ok template := by decide +kernel
  have extent : template.extent = ⟨3, 1, 4⟩ := by decide +kernel
  have asked : template.base.map (fun base => (margin base).1.val) = some (-1) := by decide +kernel
  have origin : (make template middle .east .default).origin = middle := by decide +kernel
  have bounded : template.extent.Bounded := extent ▸ ⟨by decide, by decide, by decide⟩
  have fits : Geometry.Fits middle .east template.extent := by
    refine .of_room bounded ?_ ?_ ?_ <;> rw [extent] <;> decide
  have ground : Geometry.GroundFits (make template middle .east .default).origin .east
      template.extent := origin.symm ▸ ⟨fun cell hc _ => fits.inWorld cell hc, by decide⟩
  obtain ⟨base, given, hm⟩ := Option.map_eq_some_iff.1 asked
  obtain ⟨foundation, margin, laid, asks, filled, -, -, shrunk⟩ :=
    corners_ordered_iff parsed given middle .east .default
  have ordered := shrunk bounded ground
  rw [(base.asksMargin_iff margin).1 asks, hm, extent] at ordered
  exact ⟨template, foundation, parsed, Option.isSome_of_mem given, laid, ordered.2 (by decide),
    (filled _ _ _).2 rfl⟩

/-- A margin of minus one under a single block puts the smaller corner beyond the greater one. -/
theorem inverted_under_one_block :
    let source := Text.ofLines ["a=stone", " a", "> base dirt margin:-1"]
    let low : Position := ⟨{ val := 1 }, { val := 63 }, { val := 2 }⟩
    let high : Position := ⟨{ val := -1 }, { val := 63 }, .zero⟩
    ∃ template, Template.parse source = .ok template ∧
      (make template ⟨.zero, { val := 64 }, .zero⟩ .north .default).foundation =
        some ⟨"dirt".toList, low, high⟩ ∧
      ¬ Foundation.Ordered ⟨"dirt".toList, low, high⟩ := by
  intro source low high
  have parsed : Template.parse source = .ok (.ofLines (Line.ofSource source)) := by decide +kernel
  refine ⟨_, parsed, by decide +kernel, ?_⟩
  rintro ⟨x, -, -⟩
  revert x
  decide

end Plan
end VoxelTemplate
