import Mathlib.Algebra.Order.BigOperators.Group.List
import VoxelTemplate.Proofs.Template.Shape
import VoxelTemplate.Proofs.Template.Spans

/-! How large a template can be. What is cut out of a text is made of its characters, and every cell
and every layer takes one of its bytes. -/
namespace VoxelTemplate

namespace Text

theorem flatten_consFirst (c : Char) (pieces : List Text) :
    (consFirst c pieces).flatten = c :: pieces.flatten := by
  cases pieces <;> rfl

theorem flatten_splitWhere_sublist (sep : Char → Bool) (text : Text) :
    (splitWhere sep text).flatten.Sublist text := by
  induction text with
  | nil => exact .slnil
  | cons c text ih =>
    rw [splitWhere]
    split
    · exact ih.cons c
    · rw [flatten_consFirst]
      exact ih.cons_cons c

theorem subset_of_mem_splitWhere {sep : Char → Bool} {text piece : Text}
    (h : piece ∈ splitWhere sep text) : piece ⊆ text := fun _ hc =>
  (flatten_splitWhere_sublist sep text).subset (List.mem_flatten.2 ⟨piece, h, hc⟩)

theorem subset_of_mem_split {c : Char} {text piece : Text} (h : piece ∈ split c text) :
    piece ⊆ text := subset_of_mem_splitWhere h

theorem flatten_splitTripleSpace_sublist (text : Text) :
    (splitTripleSpace text).flatten.Sublist text := by
  fun_induction splitTripleSpace text with
  | case1 => exact .slnil
  | case2 text ih => exact ((ih.cons ' ').cons ' ').cons ' '
  | case3 c text _ ih =>
    rw [flatten_consFirst]
    exact ih.cons_cons c

theorem trim_sublist (text : Text) : (trim text).Sublist text := by
  have last := (List.dropWhile_sublist isBlank (l := (trimStart text).reverse)).reverse
  rw [List.reverse_reverse] at last
  exact last.trans (List.dropWhile_sublist isBlank)

theorem byteSize_le_of_sublist {a b : Text} (h : a.Sublist b) : byteSize a ≤ byteSize b := by
  induction h with
  | slnil => exact Nat.le_refl _
  | cons c _ ih => exact Nat.le_trans ih (Nat.le_add_left ..)
  | cons_cons c _ ih => exact Nat.add_le_add_left ih _

theorem byteSize_flatten (pieces : List Text) :
    byteSize pieces.flatten = (pieces.map byteSize).sum := by
  induction pieces with
  | nil => rfl
  | cons piece pieces ih =>
    rw [List.flatten_cons, byteSize_append, ih, List.map_cons, List.sum_cons]

theorem length_le_byteSize (text : Text) : text.length ≤ byteSize text := by
  induction text with
  | nil => exact Nat.le_refl _
  | cons c text ih =>
    have := c.utf8Size_pos
    rw [List.length_cons, byteSize_cons]
    omega

/-- A text with another character has more bytes than spaces. -/
theorem count_space_lt_byteSize {text : Text} {c : Char} (hc : c ∈ text) (h : c ≠ ' ') :
    text.count ' ' < byteSize text := by
  refine Nat.lt_of_lt_of_le (Nat.lt_of_le_of_ne List.count_le_length ?_) (length_le_byteSize text)
  intro all
  exact h (List.count_eq_length.1 all c hc).symm

theorem length_split (c : Char) (text : Text) : (split c text).length = text.count c + 1 := by
  induction text with
  | nil => rfl
  | cons d text ih =>
    obtain ⟨piece, pieces, hp⟩ := List.exists_cons_of_ne_nil (splitWhere_ne_nil (· = c) text)
    simp only [split, splitWhere, hp] at ih ⊢
    by_cases h : d = c
    · simp [h, ← ih]
    · simp [h, ← ih, consFirst]

end Text

theorem Line.dropReturn_sublist (raw : Text) : (dropReturn raw).Sublist raw :=
  (dropReturn_front raw).sublist

namespace Template

/-- Cells are parted by spaces, so there is at most one cell more than there are spaces. -/
theorem length_flatten_readLayer_le (row : Text) :
    (readLayer row).flatten.length ≤ row.count ' ' + 1 := by
  unfold readLayer
  fun_induction Text.splitTripleSpace row with
  | case1 => decide
  | case2 text ih =>
    have first : Text.split ' ' [] = [[]] := rfl
    simp only [List.map_cons, List.flatten_cons, List.length_append, first, List.length_singleton,
      List.count_cons_self]
    omega
  | case3 c text _ ih =>
    obtain ⟨piece, pieces, hp⟩ := List.exists_cons_of_ne_nil (Text.splitTripleSpace_ne_nil text)
    rw [hp] at ih ⊢
    simp only [Text.consFirst, List.map_cons, List.flatten_cons, List.length_append,
      Text.length_split, List.count_cons] at ih ⊢
    omega

/-- A line takes a byte for its indent and one for each of its cells. -/
theorem length_cells_lt_byteSize {line : Text} (h : Line.IsLayer line) :
    (readLayer (Text.trim line)).flatten.length < Text.byteSize line := by
  obtain ⟨hs, -, indent⟩ := h
  obtain ⟨rest, rfl⟩ : ∃ rest, line = ' ' :: rest := by
    cases line with
    | nil => cases indent
    | cons c rest => exact ⟨rest, by rw [Option.some.inj indent]⟩
  have spoken : Text.trim (' ' :: rest) ≠ [] := fun he => hs (.inl he)
  obtain ⟨c, hc, blank⟩ : ∃ c ∈ Text.trim (' ' :: rest), c ≠ ' ' := by
    obtain ⟨c, after, he⟩ := List.exists_cons_of_ne_nil spoken
    have first := Text.head?_trim (' ' :: rest)
    rw [he, List.head?_cons] at first
    have filled := List.find?_some first.symm
    refine ⟨c, by simp [he], ?_⟩
    rintro rfl
    contradiction
  have spaces := Text.count_space_lt_byteSize hc blank
  have cells := length_flatten_readLayer_le (Text.trim (' ' :: rest))
  have inner := Text.byteSize_le_of_sublist (Text.trim_sublist rest)
  rw [Text.trim_cons (by decide)] at spaces cells ⊢
  rw [Text.byteSize_cons]
  have one : Char.utf8Size ' ' = 1 := rfl
  omega

/-- The lines of a text that are layers. -/
def layerTexts (source : Text) : List Text :=
  ((Text.split '\n' source).map Line.dropReturn).filter fun line => Line.IsLayer line

theorem layers_ofSource (source : Text) : (ofLines (Line.ofSource source)).layers =
    (layerTexts source).map fun line => readLayer (Text.trim line) := by
  have placed : (ofLines (Line.ofSource source)).layers =
      (placedLayers (Line.ofSource source)).map Prod.fst := rfl
  have lines : (Text.split '\n' source).map Line.dropReturn =
      (Line.ofSource source).map Prod.fst := (Line.placeFrom_map_fst 0 _).symm
  rw [placed, placedLayers_eq, layerTexts, lines, List.filter_map, List.map_map, List.map_map]
  rfl

theorem isLayer_of_mem_layerTexts {source line : Text} (h : line ∈ layerTexts source) :
    Line.IsLayer line := of_decide_eq_true (List.mem_filter.1 h).2

theorem sum_byteSize_layerTexts_le (source : Text) :
    ((layerTexts source).map Text.byteSize).sum ≤ Text.byteSize source := by
  have some_lines : ((layerTexts source).map Text.byteSize).sum ≤
      (((Text.split '\n' source).map Line.dropReturn).map Text.byteSize).sum :=
    (List.filter_sublist.map Text.byteSize).sum_le_sum fun _ _ => Nat.zero_le _
  have returns : (((Text.split '\n' source).map Line.dropReturn).map Text.byteSize).sum ≤
      ((Text.split '\n' source).map Text.byteSize).sum := by
    rw [List.map_map]
    exact List.sum_le_sum fun raw _ => Line.byteSize_dropReturn_le raw
  have feeds : ((Text.split '\n' source).map Text.byteSize).sum ≤ Text.byteSize source := by
    rw [← Text.byteSize_flatten]
    exact Text.byteSize_le_of_sublist (Text.flatten_splitWhere_sublist _ source)
  omega

theorem length_flatten_of_matches {rows cells : Nat} {layer : Layer}
    (h : layer.Matches rows cells) : layer.flatten.length = rows * cells := by
  have lengths : layer.map List.length = List.replicate rows cells :=
    List.eq_replicate_iff.2 ⟨by rw [List.length_map, h.1], by simpa using h.2⟩
  rw [List.length_flatten, lengths, List.sum_replicate_nat]

/-- Every cell takes a byte of the text, and so does every layer. -/
theorem volume_add_depth_le {source : Text} {template : Template}
    (parsed : parse source = .ok template) :
    template.extent.volume + template.extent.depth ≤ Text.byteSize source := by
  obtain ⟨-, -, -, all, -⟩ := (isGrid_of_parse parsed).exists_first
  obtain ⟨-, rfl⟩ := eq_ofLines_of_parse parsed
  generalize he : (ofLines (Line.ofSource source)).extent = extent at all ⊢
  have layers := layers_ofSource source
  have depth : (layerTexts source).length = extent.depth := by
    rw [← he, Template.extent, layers, List.length_map]
  have line : ∀ line ∈ layerTexts source,
      extent.height * extent.width + 1 ≤ Text.byteSize line := by
    intro line hl
    have cells := length_flatten_of_matches
      (all (readLayer (Text.trim line)) (layers ▸ List.mem_map_of_mem hl))
    exact cells ▸ length_cells_lt_byteSize (isLayer_of_mem_layerTexts hl)
  calc extent.volume + extent.depth
      = (layerTexts source).length * (extent.height * extent.width + 1) := by
        rw [depth, Extent.volume, Nat.mul_succ, Nat.mul_assoc]
    _ = ((layerTexts source).map fun _ => extent.height * extent.width + 1).sum := by
        rw [List.map_const', List.sum_replicate_nat]
    _ ≤ ((layerTexts source).map Text.byteSize).sum := List.sum_le_sum line
    _ ≤ Text.byteSize source := sum_byteSize_layerTexts_le source

/-- Keys are cut at spaces, and lines at line feeds. -/
theorem not_mem_key {source : Text} {template : Template} (parsed : parse source = .ok template)
    {layer : Layer} (hl : layer ∈ template.layers) {row : List Text} (hr : row ∈ layer) {key : Text}
    (hk : key ∈ row) : ' ' ∉ key ∧ '\n' ∉ key := by
  obtain ⟨-, rfl⟩ := eq_ofLines_of_parse parsed
  rw [layers_ofSource] at hl
  obtain ⟨line, hline, rfl⟩ := List.mem_map.1 hl
  obtain ⟨piece, hp, rfl⟩ := List.mem_map.1 hr
  refine ⟨Text.not_mem_of_mem_split hk, fun feed => ?_⟩
  obtain ⟨raw, hraw, rfl⟩ := List.mem_map.1 (List.mem_filter.1 hline).1
  have in_piece : '\n' ∈ piece :=
    (Text.flatten_splitWhere_sublist _ piece).subset (List.mem_flatten.2 ⟨key, hk, feed⟩)
  have in_row : '\n' ∈ Text.trim (Line.dropReturn raw) :=
    (Text.flatten_splitTripleSpace_sublist _).subset (List.mem_flatten.2 ⟨piece, hp, in_piece⟩)
  have in_line : '\n' ∈ Line.dropReturn raw := (Text.trim_sublist _).subset in_row
  exact Text.not_mem_of_mem_split hraw (Line.dropReturn_sublist raw |>.subset in_line)

end Template
end VoxelTemplate
