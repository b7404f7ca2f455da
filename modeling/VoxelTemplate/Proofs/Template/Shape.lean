import VoxelTemplate.Proofs.Geometry.Exact
import VoxelTemplate.Proofs.Template.Said
import VoxelTemplate.Proofs.Template.Verdict

/-! The grid of a template that was read from a text. It has at least one cell, and every cell
within its extent has a key of its own. -/
namespace VoxelTemplate

namespace Text

theorem consFirst_ne_nil (c : Char) (pieces : List Text) : consFirst c pieces ≠ [] := by
  cases pieces <;> simp [consFirst]

theorem splitTripleSpace_ne_nil (text : Text) : splitTripleSpace text ≠ [] := by
  fun_cases splitTripleSpace text with
  | case1 => simp
  | case2 => simp
  | case3 c => exact consFirst_ne_nil c _

end Text

namespace Template

theorem readLayer_ne_nil (row : Text) : readLayer row ≠ [] := by
  simp [readLayer, Text.splitTripleSpace_ne_nil]

theorem ne_nil_of_mem_readLayer {row : Text} {keys : List Text} (h : keys ∈ readLayer row) :
    keys ≠ [] := by
  obtain ⟨piece, -, rfl⟩ := List.mem_map.1 h
  exact Text.splitWhere_ne_nil _ piece

/-- Layers that are all alike, with a cell at least. -/
structure IsGrid (layers : List Layer) : Prop where
  uniform : Uniform layers
  rows : ∀ layer ∈ layers, layer ≠ []
  cells : ∀ layer ∈ layers, ∀ row ∈ layer, row ≠ []

theorem isGrid_of_parse {source : Text} {template : Template} (h : parse source = .ok template) :
    IsGrid template.layers := by
  obtain ⟨none, rfl⟩ := eq_ofLines_of_parse h
  -- Every layer comes from a line, and cutting a line leaves no empty list.
  have read : ∀ layer ∈ (placedLayers (Line.ofSource source)).map Prod.fst,
      ∃ row, layer = readLayer row := by
    intro layer hl
    rw [placedLayers_eq] at hl
    obtain ⟨placed, hp, rfl⟩ := List.mem_map.1 hl
    obtain ⟨line, -, rfl⟩ := List.mem_map.1 hp
    exact ⟨_, rfl⟩
  refine ⟨(shapeVerdict _ _).eq_nil_iff.1 (List.append_eq_nil_iff.1 none).2, ?_, ?_⟩
  · intro layer hl
    obtain ⟨row, rfl⟩ := read layer hl
    exact readLayer_ne_nil row
  · intro layer hl keys hk
    obtain ⟨row, rfl⟩ := read layer hl
    exact ne_nil_of_mem_readLayer hk

variable {template : Template}

theorem IsGrid.exists_first (h : IsGrid template.layers) :
    ∃ first rest, template.layers = first :: rest ∧
      (∀ layer ∈ template.layers, layer.Matches template.extent.height template.extent.width) ∧
      first ≠ [] ∧ first.headD [] ≠ [] := by
  obtain ⟨first, rest, hl, all⟩ := h.uniform
  have hm : first ∈ template.layers := by simp [hl]
  obtain ⟨row, rows, rfl⟩ := List.exists_cons_of_ne_nil (h.rows first hm)
  refine ⟨_, rest, hl, ?_, by simp, h.cells _ hm row List.mem_cons_self⟩
  simpa [extent, hl] using all

/-- The first cell is there, and so is the last. -/
theorem IsGrid.extent_pos (h : IsGrid template.layers) :
    0 < template.extent.depth ∧ 0 < template.extent.height ∧ 0 < template.extent.width := by
  obtain ⟨first, rest, hl, -, rows, cells⟩ := h.exists_first
  simp only [extent, hl, List.headD_cons, List.length_pos_iff]
  exact ⟨by simp, rows, cells⟩

/-- A cell within the extent has the key that stands at its place. -/
theorem IsGrid.key_eq (h : IsGrid template.layers) {cell : Cell} (hc : template.extent.Has cell) :
    ∃ layer row, template.layers[cell.layer]? = some layer ∧ layer[cell.row]? = some row ∧
      row[cell.column]? = some (template.key cell) := by
  obtain ⟨first, rest, hl, all, -⟩ := h.exists_first
  have layer_lt : cell.layer < template.layers.length := hc.layer_lt
  obtain ⟨rows, cells⟩ := all _ (List.getElem_mem layer_lt)
  have row_lt : cell.row < template.layers[cell.layer].length := rows ▸ hc.row_lt
  have column_lt : cell.column < template.layers[cell.layer][cell.row].length :=
    cells _ (List.getElem_mem row_lt) ▸ hc.column_lt
  refine ⟨_, _, List.getElem?_eq_getElem layer_lt, List.getElem?_eq_getElem row_lt, ?_⟩
  simp only [key, List.getD_eq_getElem?_getD, List.getElem?_eq_getElem, layer_lt, row_lt, column_lt,
    Option.getD_some]

end Template
end VoxelTemplate
