import VoxelTemplate.Library.Standard
import VoxelTemplate.Proofs.Plan.Passes

/-! How far a change reaches. The definition of a key concerns the cells with that key and no other,
also where it moves them to the other pass; each of the settings concerns one thing about a cell. -/
namespace VoxelTemplate

/-- Templates that differ at most in what one key stands for. -/
structure Template.AgreeApartFrom (key : Text) (template other : Template) : Prop where
  specs : ∀ other_key, other_key ≠ key → other.spec? other_key = template.spec? other_key
  layers : other.layers = template.layers
  offset : other.offset = template.offset
  base : other.base = template.base

theorem Template.agreeApartFrom_insert (template : Template) (key spec : Text) :
    template.AgreeApartFrom key { template with specs := template.specs.insert key spec } := by
  refine ⟨fun other_key hk => ?_, rfl, rfl, rfl⟩
  simp only [spec?, Dict.find?_insert, hk, if_false]

namespace Plan

/-- The placement of a cell. -/
def at? (plan : Plan) (cell : Cell) : Option Placement :=
  plan.placements.find? fun placement => placement.cell = cell

theorem at?_make {template : Template} {cell : Cell} (hc : template.extent.Has cell)
    (anchor : Position) (facing : Facing) (settings : Settings) :
    (make template anchor facing settings).at? cell =
      some (placed template anchor facing settings cell) := by
  have present : cell ∈ order template settings := by
    have cells := (map_cell_perm template anchor facing settings).mem_iff.2 (Extent.mem_cells.2 hc)
    rw [placements_eq_map, List.map_map] at cells
    obtain ⟨found, hf, he⟩ := List.mem_map.1 cells
    exact (show found = cell from he) ▸ hf
  rw [at?, placements_eq_map, List.find?_map]
  cases hf : (order template settings).find? _ with
  | none => simpa using List.find?_eq_none.1 hf cell present
  | some found =>
    have same : (placed template anchor facing settings found).cell = cell :=
      of_decide_eq_true (List.find?_some hf :)
    rw [placed_cell] at same
    rw [same]
    rfl

section Definitions

variable {key : Text} {template other : Template} (h : template.AgreeApartFrom key other)
  (settings : Settings)
include h

theorem extent_of_agree : other.extent = template.extent := by
  simp only [Template.extent, h.layers]

theorem key_of_agree (cell : Cell) : other.key cell = template.key cell := by
  simp only [Template.key, h.layers]

theorem raw_of_agree {cell : Cell} (hk : template.key cell ≠ key) :
    raw other settings cell = raw template settings cell := by
  rw [raw, raw, key_of_agree h, h.specs _ hk]

theorem passOf_of_agree {cell : Cell} (hk : template.key cell ≠ key) :
    passOf other settings cell = passOf template settings cell := by
  simp only [passOf, attached_iff, raw_of_agree h settings hk]

theorem placed_of_agree (anchor : Position) (facing : Facing) {cell : Cell}
    (hk : template.key cell ≠ key) : placed other anchor facing settings cell =
      placed template anchor facing settings cell := by
  rw [placed_eq_entry, placed_eq_entry, passOf_of_agree h settings hk]
  simp only [entry, raw_of_agree h settings hk, extent_of_agree h, h.offset]

/-- Other cells keep their pass, and with it their place among each other. -/
theorem filter_order_of_agree :
    (order other settings).filter (template.key · ≠ key) =
      (order template settings).filter (template.key · ≠ key) := by
  have pass (pass : Pass) :
      (other.extent.cells.filter (passOf other settings · = pass)).filter (template.key · ≠ key) =
        (template.extent.cells.filter (passOf template settings · = pass)).filter
          (template.key · ≠ key) := by
    rw [extent_of_agree h, List.filter_filter, List.filter_filter]
    apply List.filter_congr
    intro cell _
    by_cases hk : template.key cell = key
    · simp [hk]
    · rw [passOf_of_agree h settings hk]
  rw [order, order, List.filter_append, List.filter_append, pass, pass]

end Definitions

/-- What a plan keeps when one key gets another meaning. -/
structure KeptApartFrom (key : Text) (template : Template) (plan other : Plan) : Prop where
  origin : other.origin = plan.origin
  foundation : other.foundation = plan.foundation
  /-- Cells with another key have the same placement. -/
  cells : ∀ cell, template.extent.Has cell → template.key cell ≠ key →
    ∃ placement, plan.at? cell = some placement ∧ other.at? cell = some placement
  /-- Nothing comes between them or changes their order. -/
  order : (other.placements.filter fun placement => template.key placement.cell ≠ key) =
    plan.placements.filter fun placement => template.key placement.cell ≠ key

theorem keptApartFrom_make {key : Text} {template other : Template}
    (h : template.AgreeApartFrom key other) (anchor : Position) (facing : Facing)
    (settings : Settings) :
    KeptApartFrom key template (make template anchor facing settings)
      (make other anchor facing settings) := by
  refine ⟨?_, ?_, ?_, ?_⟩
  · simp only [make, h.offset]
  · simp only [make, h.offset, h.base, extent_of_agree h]
  · intro cell hc hk
    refine ⟨_, at?_make hc anchor facing settings, ?_⟩
    rw [← placed_of_agree h settings anchor facing hk]
    exact at?_make (extent_of_agree h ▸ hc) anchor facing settings
  · have kept (subject : Template) :
        ((make subject anchor facing settings).placements.filter fun placement =>
            template.key placement.cell ≠ key) =
          ((Plan.order subject settings).filter (template.key · ≠ key)).map
            (placed subject anchor facing settings) := by
      rw [placements_eq_map, List.filter_map]
      rfl
    rw [kept, kept, filter_order_of_agree h]
    apply List.map_congr_left
    intro cell hc
    exact placed_of_agree h settings anchor facing (by simpa using (List.mem_filter.1 hc).2)

section Settings

variable (template : Template) {settings other : Settings} (anchor : Position) (facing : Facing)

/-- A reading takes from the settings nothing but the pass. -/
theorem place_of_standIn_eq (h : other.standIn = settings.standIn) (origin : Position)
    (cell : Cell) :
    (place template origin facing other cell).1.action =
        (place template origin facing settings cell).1.action ∧
      (place template origin facing other cell).2 =
        (place template origin facing settings cell).2 := by
  have same : rawSpec template other cell = rawSpec template settings cell := by
    simp only [rawSpec, h]
  simp only [place, same]
  exact ⟨rfl, rfl⟩

theorem placed_of_words_eq (h : other.attachmentWords = settings.attachmentWords) {cell : Cell}
    {found : Text} (hs : template.spec? (template.key cell) = some found) :
    placed template anchor facing other cell = placed template anchor facing settings cell := by
  have same : Plan.raw template other cell = Plan.raw template settings cell := by
    rw [raw, raw, hs, Option.getD_some, Option.getD_some]
  have pass : passOf template other cell = passOf template settings cell := by
    simp only [passOf, attached_iff, Settings.attaches, h, same]
  rw [placed_eq_entry, placed_eq_entry, pass]
  simp only [entry, same]
  rfl

end Settings

/-- A new meaning of one key touches the cells with that key alone. Other words for attachments move
cells between the passes and change nothing else; another stand-in changes the cells alone that it
stands in for. -/
theorem change_stays_local {key : Text} {template other : Template}
    (h : template.AgreeApartFrom key other) (anchor : Position) (facing : Facing)
    (settings : Settings) :
    KeptApartFrom key template (make template anchor facing settings)
        (make other anchor facing settings) ∧
      (∀ settings' : Settings, settings'.standIn = settings.standIn →
        (∀ cell, template.extent.Has cell → ∃ p q,
          (make template anchor facing settings).at? cell = some p ∧
          (make template anchor facing settings').at? cell = some q ∧
          q.position = p.position ∧ q.action = p.action) ∧
        (make template anchor facing settings').diagnostics =
          (make template anchor facing settings).diagnostics) ∧
      ∀ settings' : Settings, settings'.attachmentWords = settings.attachmentWords →
        ∀ cell, template.extent.Has cell → template.spec? (template.key cell) ≠ none →
          ∃ p, (make template anchor facing settings).at? cell = some p ∧
            (make template anchor facing settings').at? cell = some p := by
  refine ⟨keptApartFrom_make h anchor facing settings, ?_, ?_⟩
  · intro settings' same
    have place := place_of_standIn_eq template facing same
      (Geometry.origin anchor facing template.offset)
    refine ⟨fun cell hc => ⟨_, _, at?_make hc anchor facing settings,
      at?_make hc anchor facing settings', rfl, (place cell).1⟩, ?_⟩
    simp only [make, List.flatMap_map, (place _).2]
  · intro settings' same cell hc defined
    obtain ⟨found, hs⟩ := Option.ne_none_iff_exists'.1 defined
    refine ⟨_, at?_make hc anchor facing settings, ?_⟩
    rw [← placed_of_words_eq template anchor facing same hs]
    exact at?_make hc anchor facing settings'

/-- Torches become stone, and so come to stand among the solid blocks. The undefined key is reported
as before when torches count as solid, and only its cell looks different with another stand-in. -/
theorem change_stays_local_torch :
    let source := Text.ofLines ["s=stone", "t=torch 1", "> base dirt", " t s x", " s t s"]
    let template := Template.ofLines (Line.ofSource source)
    let other := { template with specs := template.specs.insert ['t'] "stone".toList }
    let anchor : Position := ⟨.zero, { val := 64 }, .zero⟩
    let unattached : Settings := { Settings.default with attachmentWords := [] }
    let wooden : Settings := { Settings.default with standIn := "oak_log".toList }
    let plan := make template anchor .east .default
    Template.parse source = .ok template ∧ template.AgreeApartFrom ['t'] other ∧
      (make other anchor .east .default).placements.map Placement.cell ≠
        plan.placements.map Placement.cell ∧
      KeptApartFrom ['t'] template plan (make other anchor .east .default) ∧
      (make template anchor .east unattached).diagnostics = plan.diagnostics ∧
      ∀ cell, template.extent.Has cell → template.spec? (template.key cell) ≠ none →
        ∃ p, plan.at? cell = some p ∧ (make template anchor .east wooden).at? cell = some p := by
  intro source template other anchor unattached wooden plan
  have parsed : Template.parse source = .ok template := by decide +kernel
  have agree := template.agreeApartFrom_insert ['t'] "stone".toList
  have moved : (make other anchor .east .default).placements.map Placement.cell ≠
      plan.placements.map Placement.cell := by decide +kernel
  obtain ⟨kept, words, standIn⟩ := change_stays_local agree anchor .east .default
  exact ⟨parsed, agree, moved, kept, (words unattached rfl).2, standIn wooden rfl⟩

end Plan
end VoxelTemplate
