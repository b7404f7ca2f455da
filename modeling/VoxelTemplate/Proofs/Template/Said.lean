import Mathlib.Data.List.Basic
import VoxelTemplate.Proofs.Dict
import VoxelTemplate.Proofs.Template.Lines
import VoxelTemplate.Proofs.Text.Pieces
import VoxelTemplate.Template.Parse

/-! What the lines of a text say, in order, and the parts of a template as parts of it. A text with
no faults is the template of its lines. -/
namespace VoxelTemplate.Template

/-- What the lines of a text say, in order. -/
def said (source : Text) : List Line := (Line.ofSource source).map fun placed => Line.read placed.1

theorem definitions_eq (lines : List (Text × Span)) :
    definitions lines = (lines.map fun placed => Line.read placed.1).filterMap fun
      | .definition key spec => some (key, spec)
      | _ => none := by
  rw [List.filterMap_map]
  rfl

theorem offsets_eq (lines : List (Text × Span)) :
    offsets lines = (lines.map fun placed => Line.read placed.1).filterMap fun
      | .offset body => (Offset.read body).toOption
      | _ => none := by
  rw [List.filterMap_map]
  rfl

theorem bases_eq (lines : List (Text × Span)) :
    bases lines = (lines.map fun placed => Line.read placed.1).filterMap fun
      | .base body => (Base.read body).toOption
      | _ => none := by
  rw [List.filterMap_map]
  rfl

theorem map_fst_placedLayers (lines : List (Text × Span)) :
    (placedLayers lines).map Prod.fst = (lines.map fun placed => Line.read placed.1).filterMap fun
      | .layer row => some (readLayer row)
      | _ => none := by
  rw [List.filterMap_map, placedLayers, List.map_filterMap]
  apply List.filterMap_congr
  intro placed _
  simp only [Function.comp_apply]
  split <;> simp_all

theorem parse_of_faults_eq_nil {source : Text} (h : faults source = []) :
    parse source = .ok (ofLines (Line.ofSource source)) := by
  rw [parse, h]

theorem parse_cases (source : Text) :
    (faults source = [] ∧ parse source = .ok (ofLines (Line.ofSource source))) ∨
      (faults source ≠ [] ∧ parse source = .error (faults source)) := by
  cases hf : faults source with
  | nil => exact .inl ⟨rfl, parse_of_faults_eq_nil hf⟩
  | cons fault rest => exact .inr ⟨List.cons_ne_nil _ _, by rw [parse, hf]⟩

theorem eq_ofLines_of_parse {source : Text} {template : Template}
    (h : parse source = .ok template) :
    faults source = [] ∧ template = ofLines (Line.ofSource source) := by
  rcases parse_cases source with ⟨none, ok⟩ | ⟨-, error⟩
  · exact ⟨none, Except.ok.inj (h.symm.trans ok)⟩
  · cases h.symm.trans error

theorem eq_faults_of_parse {source : Text} {found : List Fault} (h : parse source = .error found) :
    found = faults source := by
  rcases parse_cases source with ⟨-, ok⟩ | ⟨-, error⟩
  · cases h.symm.trans ok
  · exact Except.error.inj (h.symm.trans error)

/-- A specification that a template has stands in a definition of its text. -/
theorem definition_mem_said {source : Text} {template : Template}
    (parsed : parse source = .ok template) {key raw : Text} (h : template.spec? key = some raw) :
    .definition key raw ∈ said source := by
  obtain ⟨-, rfl⟩ := eq_ofLines_of_parse parsed
  obtain ⟨before, after, he, -⟩ := Dict.find?_ofList.1 h
  have defined : (key, raw) ∈ definitions (Line.ofSource source) := by simp [he]
  rw [definitions_eq, List.mem_filterMap] at defined
  obtain ⟨line, hl, defined⟩ := defined
  cases line with
  | definition key' raw' =>
    obtain ⟨rfl, rfl⟩ := Prod.mk.inj (Option.some.inj defined)
    exact hl
  | comment | layer | offset | base | ignored => contradiction

/-- A template keeps its specifications without the blanks around them. -/
theorem trim_of_spec? {source : Text} {template : Template}
    (parsed : parse source = .ok template) {key raw : Text} (h : template.spec? key = some raw) :
    Text.trim raw = raw := by
  obtain ⟨placed, -, hr⟩ := List.mem_map.1 (definition_mem_said parsed h)
  have meant := Line.says_read placed.1
  rw [hr] at meant
  cases meant with
  | definition _ _ _ => exact Text.trim_trim _

end VoxelTemplate.Template
