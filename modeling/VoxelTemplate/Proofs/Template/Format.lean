import Mathlib.Data.List.Forall2
import VoxelTemplate.Proofs.Template.Directives
import VoxelTemplate.Proofs.Template.Tokens
import VoxelTemplate.Proofs.Text.Cuts

/-! The format of a template text, said without its reader: the lines of a text, the broken
directives among them, and the layers with their rows and cells. The reader finds exactly these. -/
namespace VoxelTemplate

namespace Line

/-- The lines that pieces of a text hold, from the byte at `start` on, with a line feed behind each
piece. A carriage return at the end of a piece does not belong to its line. -/
inductive PlacedFrom : Nat → List Text → List (Text × Span) → Prop where
  | nil {start : Nat} : PlacedFrom start [] []
  | bare {start : Nat} {line : Text} {raws : List Text} {lines : List (Text × Span)}
      (plain : line.getLast? ≠ some '\r')
      (behind : PlacedFrom (start + Text.byteSize line + 1) raws lines) :
      PlacedFrom start (line :: raws) ((line, ⟨start, start + Text.byteSize line⟩) :: lines)
  | returned {start : Nat} {line : Text} {raws : List Text} {lines : List (Text × Span)}
      (behind : PlacedFrom (start + Text.byteSize line + 2) raws lines) :
      PlacedFrom start ((line ++ ['\r']) :: raws)
        ((line, ⟨start, start + Text.byteSize line⟩) :: lines)

/-- The lines of a text in order, each with the bytes that it takes. -/
def LinesOf (source : Text) (lines : List (Text × Span)) : Prop :=
  ∃ raws, Text.Cut ['\n'] source raws ∧ PlacedFrom 0 raws lines

section Lines

variable {start : Nat} {raws : List Text} {lines : List (Text × Span)}

theorem placeFrom_bare {line : Text} (plain : line.getLast? ≠ some '\r') (start : Nat)
    (raws : List Text) : placeFrom start (line :: raws) =
      (line, ⟨start, start + Text.byteSize line⟩) ::
        placeFrom (start + Text.byteSize line + 1) raws := by
  have drop : dropReturn line = line := if_neg plain
  rw [placeFrom, drop]

theorem placeFrom_returned (line : Text) (start : Nat) (raws : List Text) :
    placeFrom start ((line ++ ['\r']) :: raws) =
      (line, ⟨start, start + Text.byteSize line⟩) ::
        placeFrom (start + Text.byteSize line + 2) raws := by
  have drop : dropReturn (line ++ ['\r']) = line := by simp [dropReturn]
  have size : Text.byteSize (line ++ ['\r']) = Text.byteSize line + 1 := Text.byteSize_append ..
  rw [placeFrom, drop, size]
  rfl

theorem PlacedFrom.eq_placeFrom (h : PlacedFrom start raws lines) :
    lines = placeFrom start raws := by
  induction h with
  | nil => rfl
  | bare plain _ ih => rw [placeFrom_bare plain, ih]
  | returned _ ih => rw [placeFrom_returned, ih]

theorem placedFrom_placeFrom (start : Nat) (raws : List Text) :
    PlacedFrom start raws (placeFrom start raws) := by
  induction raws generalizing start with
  | nil => exact .nil
  | cons raw raws ih =>
    by_cases ends : raw.getLast? = some '\r'
    · obtain ⟨line, rfl⟩ := List.getLast?_eq_some_iff.1 ends
      rw [placeFrom_returned]
      exact .returned (ih _)
    · rw [placeFrom_bare ends]
      exact .bare ends (ih _)

theorem linesOf_iff {source : Text} : LinesOf source lines ↔ lines = ofSource source := by
  constructor
  · rintro ⟨raws, cut, placed⟩
    rw [placed.eq_placeFrom, Text.cut_char_iff.1 cut, ofSource]
  · rintro rfl
    exact ⟨_, Text.cut_split '\n' source, placedFrom_placeFrom 0 _⟩

end Lines

/-- A directive without a reading: an offset whose lexemes are not three numbers, or a base that is
blank throughout. It begins with its mark, so that it is no comment and no layer, and has no equals
sign, which would make it a definition. -/
inductive Broken (line : Text) : Prop where
  | offset {body : Text} {lexemes : List (Lexeme × Span)} (plain : '=' ∉ line)
      (mark : line = "> offset ".toList ++ body) (lexed : Lexeme.Tokenized body lexemes)
      (wrong : ¬ ∃ x y z, lexemes.map Prod.fst = [.number x, .number y, .number z])
  | base {body : Text} (plain : '=' ∉ line) (mark : line = "> base ".toList ++ body)
      (silent : ∀ c ∈ body, Text.isBlank c = true)

/-- A line that is a layer, and its cells. The line is indented by a space, and is neither a
definition nor a comment. Without the blanks around it, it is cut into rows at every three spaces,
and each row into cells at every space. -/
inductive Draws (line : Text) (layer : Layer) : Prop where
  | mk {text : Text} {rows : List Text} (indent : line.head? = some ' ') (plain : '=' ∉ line)
      (core : Text.Core line text) (mark : text.head? ≠ some '#')
      (cut : Text.Cut "   ".toList text rows) (cells : List.Forall₂ (Text.Cut [' ']) rows layer)

/-- Among all classes of lines, these are the offsets and bases without a reading. -/
theorem broken_iff {line : Text} : Broken line ↔ IsBad line := by
  constructor
  · intro broken
    cases broken with
    | @offset body _ plain mark lexed wrong =>
      rw [lexed.unique (Lexeme.tokenized_scan body)] at wrong
      exact .inl ⟨body, says_offset_iff.2 ⟨mark, plain⟩, wrong⟩
    | @base body plain mark silent => exact .inr ⟨body, says_base_iff.2 ⟨mark, plain⟩, silent⟩
  · intro bad
    rcases bad with ⟨body, said, wrong⟩ | ⟨body, said, silent⟩
    · obtain ⟨mark, plain⟩ := says_offset_iff.1 said
      exact .offset plain mark (Lexeme.tokenized_scan body) wrong
    · obtain ⟨mark, plain⟩ := says_base_iff.1 said
      exact .base plain mark silent

instance : DecidablePred Broken := fun _ => decidable_of_iff _ broken_iff.symm

theorem forall₂_cut_space_iff {rows : List Text} {layer : Layer} :
    List.Forall₂ (Text.Cut [' ']) rows layer ↔ layer = rows.map (Text.split ' ') := by
  have same : Text.Cut [' '] = fun row cells => Text.split ' ' row = cells := by
    funext row cells
    exact propext (Text.cut_char_iff.trans eq_comm)
  rw [same, ← List.forall₂_map_left_iff (R := Eq), List.forall₂_eq_eq_eq, eq_comm]

/-- Among all classes of lines, these are the layers, with the cells that the reader takes. -/
theorem draws_iff {line : Text} {layer : Layer} :
    Draws line layer ↔ ∃ row, read line = .layer row ∧ layer = Template.readLayer row := by
  constructor
  · intro drawn
    cases drawn with
    | @mk row _ indent plain core mark cut cells =>
      refine ⟨row, says_iff.1 (says_layer_iff.2 ⟨indent, plain, core, mark⟩), ?_⟩
      rw [forall₂_cut_space_iff.1 cells, Text.cut_tripleSpace_iff.1 cut, Template.readLayer]
  · rintro ⟨row, said, rfl⟩
    obtain ⟨indent, plain, core, mark⟩ := says_layer_iff.1 (says_iff.2 said)
    exact .mk indent plain core mark (Text.cut_splitTripleSpace row) (forall₂_cut_space_iff.2 rfl)

theorem Broken.not_draws {line : Text} (h : Broken line) : ¬ ∃ layer, Draws line layer := by
  intro ⟨cells, drawn⟩
  have indent : line.head? = some ' ' := by
    cases drawn with
    | mk indent => exact indent
  cases h with
  | offset _ mark | base _ mark => simp [mark] at indent

end Line

namespace Template

/-- The lines that decide over a text: the broken directives, and the layers with their cells, in
order and each with the bytes of its line. -/
inductive Outline : List (Text × Span) → List (Text × Span) → List (Layer × Span) → Prop where
  | nil : Outline [] [] []
  | broken {line : Text} {span : Span} {lines bad : List (Text × Span)}
      {layers : List (Layer × Span)} (h : Line.Broken line) (behind : Outline lines bad layers) :
      Outline ((line, span) :: lines) ((line, span) :: bad) layers
  | layer {line : Text} {span : Span} {layer : Layer} {lines bad : List (Text × Span)}
      {layers : List (Layer × Span)} (h : Line.Draws line layer)
      (behind : Outline lines bad layers) :
      Outline ((line, span) :: lines) bad ((layer, span) :: layers)
  | other {line : Text} {span : Span} {lines bad : List (Text × Span)}
      {layers : List (Layer × Span)} (sound : ¬ Line.Broken line)
      (empty : ¬ ∃ layer, Line.Draws line layer) (behind : Outline lines bad layers) :
      Outline ((line, span) :: lines) bad layers

/-- The broken directives of a text and its layers. -/
def Outlines (source : Text) (bad : List (Text × Span)) (layers : List (Layer × Span)) : Prop :=
  ∃ lines, Line.LinesOf source lines ∧ Outline lines bad layers

section Outline

variable {line : Text} {lines bad : List (Text × Span)} {layers : List (Layer × Span)}

theorem placedLayers_cons_of_draws {layer : Layer} (h : Line.Draws line layer) (span : Span)
    (lines : List (Text × Span)) :
    placedLayers ((line, span) :: lines) = (layer, span) :: placedLayers lines := by
  obtain ⟨row, said, rfl⟩ := Line.draws_iff.1 h
  exact List.filterMap_cons_some (by simp [said])

theorem placedLayers_cons_of_not_draws (h : ¬ ∃ layer, Line.Draws line layer) (span : Span)
    (lines : List (Text × Span)) : placedLayers ((line, span) :: lines) = placedLayers lines := by
  refine List.filterMap_cons_none ?_
  cases said : Line.read line with
  | layer row => exact absurd ⟨_, Line.draws_iff.2 ⟨row, said, rfl⟩⟩ h
  | comment | definition | offset | base | ignored => simp [said]

theorem Outline.eq_filter (h : Outline lines bad layers) :
    bad = (lines.filter fun placed => Line.Broken placed.1) ∧ layers = placedLayers lines := by
  induction h with
  | nil => exact ⟨rfl, rfl⟩
  | broken h _ ih =>
    rw [List.filter_cons_of_pos (by simpa using h), placedLayers_cons_of_not_draws h.not_draws]
    exact ⟨congrArg _ ih.1, ih.2⟩
  | layer h _ ih =>
    have sound := fun broken : Line.Broken _ => broken.not_draws ⟨_, h⟩
    rw [List.filter_cons_of_neg (by simpa using sound), placedLayers_cons_of_draws h]
    exact ⟨ih.1, congrArg _ ih.2⟩
  | other sound empty _ ih =>
    rw [List.filter_cons_of_neg (by simpa using sound), placedLayers_cons_of_not_draws empty]
    exact ih

theorem outline_filter (lines : List (Text × Span)) :
    Outline lines (lines.filter fun placed => Line.Broken placed.1) (placedLayers lines) := by
  induction lines with
  | nil => exact .nil
  | cons placed lines ih =>
    obtain ⟨line, span⟩ := placed
    by_cases broken : Line.Broken line
    · rw [List.filter_cons_of_pos (by simpa using broken),
        placedLayers_cons_of_not_draws broken.not_draws]
      exact .broken broken ih
    · rw [List.filter_cons_of_neg (by simpa using broken)]
      by_cases drawn : ∃ layer, Line.Draws line layer
      · obtain ⟨layer, drawn⟩ := drawn
        rw [placedLayers_cons_of_draws drawn]
        exact .layer drawn ih
      · rw [placedLayers_cons_of_not_draws drawn]
        exact .other broken drawn ih

/-- The reader finds the broken directives of a text and its layers. -/
theorem outlines_ofSource (source : Text) :
    Outlines source ((Line.ofSource source).filter fun placed => Line.Broken placed.1)
      (placedLayers (Line.ofSource source)) :=
  ⟨_, Line.linesOf_iff.2 rfl, outline_filter _⟩

/-- A text has no other ones. -/
theorem outlines_iff {source : Text} : Outlines source bad layers ↔
    bad = ((Line.ofSource source).filter fun placed => Line.Broken placed.1) ∧
      layers = placedLayers (Line.ofSource source) := by
  constructor
  · intro ⟨lines, part, outline⟩
    obtain rfl := Line.linesOf_iff.1 part
    exact outline.eq_filter
  · rintro ⟨rfl, rfl⟩
    exact outlines_ofSource source

end Outline

end Template
end VoxelTemplate
