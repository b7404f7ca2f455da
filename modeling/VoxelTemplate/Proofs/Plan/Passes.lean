import VoxelTemplate.Library.Standard
import VoxelTemplate.Proofs.Plan.Placements
import VoxelTemplate.Proofs.Template.Shape

/-! The list of placements of a plan, entry by entry: the cells of the grid that need no neighbour,
in the order of the grid, and after them those that do, in the same order. -/
namespace VoxelTemplate.Plan

section Order

variable (template : Template) (anchor : Position) (facing : Facing) (settings : Settings)

/-- The specification that the key of a cell stands for, or the stand-in if it stands for none. -/
def raw (cell : Cell) : Text := (template.spec? (template.key cell)).getD settings.standIn

/-- The specification of a cell holds one of the words of attachments. -/
def Attached (cell : Cell) : Prop :=
  ∃ word ∈ settings.attachmentWords, word <:+: raw template settings cell

theorem attached_iff (cell : Cell) :
    Attached template settings cell ↔ settings.attaches (raw template settings cell) = true := by
  simp only [Attached, Settings.attaches, List.any_eq_true, Text.contains_iff_infix]

instance : DecidablePred (Attached template settings) := fun cell =>
  decidable_of_iff _ (attached_iff template settings cell).symm

/-- A cell with its pass, where it comes to lie and what happens there. -/
def entry (pass : Pass) (cell : Cell) : Placement where
  cell
  position :=
    Geometry.locate (Geometry.origin anchor facing template.offset) facing template.extent cell
  action := (Spec.read settings facing (raw template settings cell)).1.action
  pass

def solids : List Placement :=
  (template.extent.cells.filter fun cell => ¬ Attached template settings cell).map
    (entry template anchor facing settings .solid)

def attachments : List Placement :=
  (template.extent.cells.filter fun cell => Attached template settings cell).map
    (entry template anchor facing settings .attachment)

theorem rawSpec_fst (cell : Cell) :
    (rawSpec template settings cell).1 = raw template settings cell := by
  simp only [rawSpec, raw]
  cases template.spec? (template.key cell) <;> rfl

/-- What is attached goes to the second pass, and all else to the first. -/
def passOf (cell : Cell) : Pass :=
  if Attached template settings cell then .attachment else .solid

theorem passOf_eq_solid {cell : Cell} :
    passOf template settings cell = .solid ↔ ¬ Attached template settings cell := by
  unfold passOf
  split <;> simp [*]

theorem passOf_eq_attachment {cell : Cell} :
    passOf template settings cell = .attachment ↔ Attached template settings cell := by
  unfold passOf
  split <;> simp [*]

theorem placed_eq_entry (cell : Cell) : placed template anchor facing settings cell =
    entry template anchor facing settings (passOf template settings cell) cell := by
  have pass : (placed template anchor facing settings cell).pass = passOf template settings cell := by
    simp only [passOf, attached_iff, ← rawSpec_fst]
    rfl
  rw [← pass, entry, ← rawSpec_fst]
  rfl

theorem filter_pass_map_placed (pass : Pass) :
    (template.extent.cells.map (placed template anchor facing settings)).filter (·.pass = pass) =
      (template.extent.cells.filter (passOf template settings · = pass)).map
        (placed template anchor facing settings) := by
  rw [List.filter_map]
  congr 1
  apply List.filter_congr
  intro cell _
  simp only [Function.comp, placed_eq_entry, entry]

/-- The cells in the order of their placements. -/
def order : List Cell :=
  template.extent.cells.filter (passOf template settings · = .solid) ++
    template.extent.cells.filter (passOf template settings · = .attachment)

/-- The order of the placements depends on the template alone. -/
theorem placements_eq_map : (make template anchor facing settings).placements =
    (order template settings).map (placed template anchor facing settings) := by
  have all : (template.extent.cells.map (place template
      (Geometry.origin anchor facing template.offset) facing settings)).map Prod.fst =
        template.extent.cells.map (placed template anchor facing settings) := List.map_map
  simp only [make, all, filter_pass_map_placed, order, List.map_append]

theorem map_placed_eq_map_entry (pass : Pass) :
    (template.extent.cells.filter (passOf template settings · = pass)).map
        (placed template anchor facing settings) =
      (template.extent.cells.filter (passOf template settings · = pass)).map
        (entry template anchor facing settings pass) := by
  apply List.map_congr_left
  intro cell hc
  rw [placed_eq_entry, of_decide_eq_true (List.mem_filter.1 hc).2]

theorem placements_eq_append : (make template anchor facing settings).placements =
    solids template anchor facing settings ++ attachments template anchor facing settings := by
  rw [placements_eq_map, order, List.map_append, map_placed_eq_map_entry, map_placed_eq_map_entry]
  simp only [passOf_eq_solid, passOf_eq_attachment, solids, attachments]

theorem filter_map_entry (pass other : Pass) (cells : List Cell) :
    (cells.map (entry template anchor facing settings pass)).filter (·.pass = other) =
      if pass = other then cells.map (entry template anchor facing settings pass) else [] := by
  split
  · next h => exact List.filter_eq_self.2 (by simp [entry, h])
  · next h => exact List.filter_eq_nil_iff.2 (by simp [entry, h])

theorem ofPass_solid : (make template anchor facing settings).ofPass .solid =
    solids template anchor facing settings := by
  rw [ofPass, placements_eq_append, List.filter_append, solids, attachments, filter_map_entry,
    filter_map_entry]
  exact List.append_nil _

theorem ofPass_attachment : (make template anchor facing settings).ofPass .attachment =
    attachments template anchor facing settings := by
  rw [ofPass, placements_eq_append, List.filter_append, solids, attachments, filter_map_entry,
    filter_map_entry]
  exact List.nil_append _

theorem map_cell_perm : ((make template anchor facing settings).placements.map
    Placement.cell).Perm template.extent.cells := by
  have h := (placements_perm template anchor facing settings).map Placement.cell
  rw [List.map_map] at h
  exact h.trans (.of_eq (List.map_id _))

end Order

/-- A plan that treats every cell of the grid once, in two passes. -/
structure CoversInPasses (template : Template) (anchor : Position) (facing : Facing)
    (settings : Settings) (plan : Plan) : Prop where
  /-- The cells of the grid stand in their order. -/
  ordered : template.extent.cells.Pairwise Cell.Before
  mem_cells : ∀ cell, cell ∈ template.extent.cells ↔ template.extent.Has cell
  /-- Each has the key that stands at its place. -/
  keyed : ∀ cell, template.extent.Has cell →
    ∃ layer row, template.layers[cell.layer]? = some layer ∧ layer[cell.row]? = some row ∧
      row[cell.column]? = some (template.key cell)
  placements : plan.placements =
    solids template anchor facing settings ++ attachments template anchor facing settings
  /-- No cell comes twice. -/
  nodup : (plan.placements.map Placement.cell).Nodup
  /-- No cell is left out, and none comes from outside the grid. -/
  mem_map_cell : ∀ cell, cell ∈ plan.placements.map Placement.cell ↔ template.extent.Has cell
  length : plan.placements.length =
    template.extent.depth * template.extent.height * template.extent.width
  solid : plan.ofPass .solid = solids template anchor facing settings
  attachment : plan.ofPass .attachment = attachments template anchor facing settings

/-- The plan of a template that was read treats every cell once: the solid blocks in the order of
the grid, and then the attachments. -/
theorem covers_in_passes {source : Text} {template : Template}
    (parsed : Template.parse source = .ok template) (anchor : Position) (facing : Facing)
    (settings : Settings) :
    CoversInPasses template anchor facing settings (make template anchor facing settings) := by
  have cells := map_cell_perm template anchor facing settings
  exact {
    ordered := template.extent.pairwise_cells
    mem_cells := fun _ => Extent.mem_cells
    keyed := fun _ hc => (Template.isGrid_of_parse parsed).key_eq hc
    placements := placements_eq_append template anchor facing settings
    nodup := cells.nodup_iff.2 template.extent.nodup_cells
    mem_map_cell := fun _ => cells.mem_iff.trans Extent.mem_cells
    length := by rw [← template.extent.length_cells, ← cells.length_eq, List.length_map]
    solid := ofPass_solid template anchor facing settings
    attachment := ofPass_attachment template anchor facing settings }

/-- The watchtower, with a lantern and vines, facing west. -/
theorem covers_in_passes_tower :
    let template := Template.ofLines (Line.ofSource Library.tower)
    let anchor : Position := ⟨{ val := 12 }, { val := 64 }, { val := -5 }⟩
    Template.parse Library.tower = .ok template ∧
      CoversInPasses template anchor .west .default (make template anchor .west .default) := by
  intro template anchor
  have parsed : Template.parse Library.tower = .ok template := by decide +kernel
  exact ⟨parsed, covers_in_passes parsed anchor .west .default⟩

end VoxelTemplate.Plan
