import VoxelTemplate.Library.Standard
import VoxelTemplate.Plan
import VoxelTemplate.Proofs.Template.Size

/-! Plans made with every access checked: the places in the grid, and the layers from a cell to the
last one, which must be a natural number. For a template read from a text no check fails. -/
namespace VoxelTemplate

/-- A function that answers on every item answers on all of them. -/
theorem mapM_eq_some_map {α β : Type} {items : List α} {f : α → Option β} {g : α → β}
    (h : ∀ a ∈ items, f a = some (g a)) : items.mapM f = some (items.map g) := by
  induction items with
  | nil => rfl
  | cons a items ih =>
    rw [List.mapM_cons, h a List.mem_cons_self, ih fun b hb => h b (List.mem_cons_of_mem _ hb)]
    rfl

/-- The key of a cell, if the grid has the place. -/
def Template.key? (template : Template) (cell : Cell) : Option Text := do
  let layer ← template.layers[cell.layer]?
  let row ← layer[cell.row]?
  row[cell.column]?

namespace Geometry

/-- The position of a cell, if its layer does not lie behind the last one. -/
def locate? (origin : Position) (facing : Facing) (extent : Extent) (cell : Cell) :
    Option Position :=
  if cell.layer ≤ extent.depth then some (locate origin facing extent cell) else none

/-- The corners of a foundation, if both cells that they come from have a position. -/
def footprint? (origin : Position) (facing : Facing) (extent : Extent) (margin : Coord) :
    Option (Position × Position) := do
  let _ ← locate? origin facing extent ⟨0, 0, 0⟩
  let _ ← locate? origin facing extent ⟨extent.depth - 1, 0, extent.width - 1⟩
  return footprint origin facing extent margin

end Geometry

namespace Plan

/-- One cell of a plan, if its key and its position are in range. -/
def place? (template : Template) (origin : Position) (facing : Facing) (settings : Settings)
    (cell : Cell) : Option (Placement × List Diagnostic) := do
  let key ← template.key? cell
  let position ← Geometry.locate? origin facing template.extent cell
  let (raw, missing) := match template.spec? key with
    | some raw => (raw, [])
    | none => (settings.standIn, [.undefinedKey key cell])
  let (spec, problems) := Spec.read settings facing raw
  return ({ cell, position, action := spec.action, pass := spec.pass }, missing ++ problems)

/-- The plan of a template, if no access on the way leaves its range. -/
def make? (template : Template) (anchor : Position) (facing : Facing) (settings : Settings) :
    Option Plan := do
  let origin := Geometry.origin anchor facing template.offset
  let foundation ← template.base.mapM fun base => do
    let corners ← Geometry.footprint? origin facing template.extent (margin base).1
    return (⟨base.block, corners.1, corners.2⟩ : Foundation)
  let cells ← template.extent.cells.mapM (place? template origin facing settings)
  let placements := cells.map Prod.fst
  return { origin, facing, foundation
           placements :=
             placements.filter (·.pass = .solid) ++ placements.filter (·.pass = .attachment)
           diagnostics :=
             (template.base.elim [] fun base => (margin base).2) ++ cells.flatMap Prod.snd }

end Plan

section InRange

variable {template : Template} {cell : Cell}

theorem Template.IsGrid.key?_eq (h : IsGrid template.layers) (hc : template.extent.Has cell) :
    template.key? cell = some (template.key cell) := by
  obtain ⟨layer, row, hl, hr, hk⟩ := h.key_eq hc
  simp only [key?, hl, hr, hk, Option.bind_eq_bind, Option.bind_some]

theorem Geometry.locate?_eq (origin : Position) (facing : Facing) {extent : Extent}
    (h : cell.layer ≤ extent.depth) :
    locate? origin facing extent cell = some (locate origin facing extent cell) := if_pos h

theorem Geometry.footprint?_eq (origin : Position) (facing : Facing) (extent : Extent)
    (margin : Coord) :
    footprint? origin facing extent margin = some (footprint origin facing extent margin) := by
  rw [footprint?, locate?_eq origin facing (Nat.zero_le _),
    locate?_eq origin facing (Nat.sub_le _ _)]
  rfl

theorem Plan.place?_eq (h : Template.IsGrid template.layers) (hc : template.extent.Has cell)
    (origin : Position) (facing : Facing) (settings : Settings) :
    place? template origin facing settings cell =
      some (place template origin facing settings cell) := by
  rw [place?, h.key?_eq hc, Geometry.locate?_eq origin facing (Nat.le_of_lt hc.layer_lt)]
  rfl

theorem Plan.make?_eq (h : Template.IsGrid template.layers) (anchor : Position) (facing : Facing)
    (settings : Settings) :
    make? template anchor facing settings = some (make template anchor facing settings) := by
  have cells := mapM_eq_some_map fun cell hc => place?_eq h (Extent.mem_cells.1 hc)
    (Geometry.origin anchor facing template.offset) facing settings
  unfold make?
  simp only [cells, Geometry.footprint?_eq]
  unfold make
  cases template.base <;> rfl

end InRange

namespace Template

/-- A template that holds together, and is not larger than the text that it was read from. -/
structure Proper (source : Text) (template : Template) : Prop where
  depth_pos : 1 ≤ template.extent.depth
  height_pos : 1 ≤ template.extent.height
  width_pos : 1 ≤ template.extent.width
  layers : template.layers.length = template.extent.depth
  rows : ∀ layer ∈ template.layers, layer.length = template.extent.height
  keys : ∀ layer ∈ template.layers, ∀ row ∈ layer, row.length = template.extent.width
  /-- No key goes over a space or a line feed. -/
  unbroken : ∀ layer ∈ template.layers, ∀ row ∈ layer, ∀ key ∈ row, ' ' ∉ key ∧ '\n' ∉ key
  size : template.extent.depth * template.extent.height * template.extent.width +
    template.extent.depth ≤ Text.byteSize source
  /-- Numbers that can say the size of the text can say the volume, and the product on the way. -/
  fits : ∀ limit, Text.byteSize source ≤ limit →
    template.extent.depth * template.extent.height ≤ limit ∧ template.extent.volume ≤ limit

theorem proper_of_parse {source : Text} {template : Template}
    (parsed : parse source = .ok template) : Proper source template := by
  have grid := isGrid_of_parse parsed
  obtain ⟨depth, height, width⟩ := grid.extent_pos
  obtain ⟨-, -, -, all, -⟩ := grid.exists_first
  have size := volume_add_depth_le parsed
  refine ⟨depth, height, width, rfl, fun layer hl => (all layer hl).1,
    fun layer hl => (all layer hl).2, fun _ hl _ hr _ hk => not_mem_key parsed hl hr hk, size, ?_⟩
  intro limit hs
  have area : template.extent.depth * template.extent.height ≤ template.extent.volume :=
    Nat.le_mul_of_pos_right _ width
  omega

/-- A text is read as a template of at least one cell and of one shape throughout, which has no more
cells and layers than the text has bytes. A plan of it never leaves the grid. -/
theorem never_degenerate {source : Text} {template : Template}
    (parsed : parse source = .ok template) : Proper source template ∧
      ∀ anchor facing settings, Plan.make? template anchor facing settings =
        some (Plan.make template anchor facing settings) :=
  ⟨proper_of_parse parsed, Plan.make?_eq (isGrid_of_parse parsed)⟩

/-- Two layers of two rows, with an empty key between two spaces. -/
theorem never_degenerate_gap :
    let source := Text.ofLines
      ["a=stone", "> base dirt margin:1", " a a  a   a  a a", " a a a a   a a a a"]
    let template := ofLines (Line.ofSource source)
    parse source = .ok template ∧ template.extent = ⟨2, 2, 4⟩ ∧ Proper source template ∧
      ∀ anchor facing settings, Plan.make? template anchor facing settings =
        some (Plan.make template anchor facing settings) := by
  intro source template
  have parsed : parse source = .ok template := by decide +kernel
  exact ⟨parsed, by decide +kernel, never_degenerate parsed⟩

end Template
end VoxelTemplate
