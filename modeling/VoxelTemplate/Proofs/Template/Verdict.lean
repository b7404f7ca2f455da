import VoxelTemplate.Proofs.Template.Format
import VoxelTemplate.Proofs.Template.Said

/-! The verdict on a template text: which texts are templates, and for all others the list of
everything that is wrong, each offence once and in order. -/
namespace VoxelTemplate

/-- Items on which a partial function answers, side by side with its answers. -/
theorem forall₂_filter_filterMap {α β : Type} {p : α → Prop} [DecidablePred p]
    {f : α → Option β} {R : α → β → Prop} {items : List α}
    (h : ∀ a ∈ items, (¬ p a ∧ f a = none) ∨ (p a ∧ ∃ b, f a = some b ∧ R a b)) :
    List.Forall₂ R (items.filter fun a => p a) (items.filterMap f) := by
  induction items with
  | nil => exact .nil
  | cons a items ih =>
    have rest := ih fun b hb => h b (List.mem_cons_of_mem _ hb)
    rcases h a List.mem_cons_self with ⟨hp, hf⟩ | ⟨hp, b, hf, hr⟩
    · rw [List.filter_cons_of_neg (by simpa using hp), List.filterMap_cons_none hf]
      exact rest
    · rw [List.filter_cons_of_pos (by simpa using hp), List.filterMap_cons_some hf]
      exact .cons hr rest

namespace Line

def IsLayer (line : Text) : Prop := ¬ Silent line ∧ '=' ∉ line ∧ line.head? = some ' '

instance : DecidablePred IsLayer := fun line => by unfold IsLayer Silent; infer_instance

theorem IsLayer.read_eq {line : Text} (h : IsLayer line) : read line = .layer (Text.trim line) := by
  obtain ⟨hs, he, hl⟩ := h
  exact says_iff.1 (.layer hs he hl)

theorem isLayer_of_read_eq {line row : Text} (h : read line = .layer row) :
    IsLayer line ∧ row = Text.trim line := by
  cases says_iff.2 h with
  | layer hs he hl => exact ⟨⟨hs, he, hl⟩, rfl⟩

theorem stop_of_mem_placeFrom {start : Nat} {lines : List Text} {line : Text} {span : Span}
    (h : (line, span) ∈ placeFrom start lines) : span.stop = span.start + Text.byteSize line := by
  induction lines generalizing start with
  | nil => simp [placeFrom] at h
  | cons raw rest ih =>
    rcases List.mem_cons.1 h with h | h
    · obtain ⟨rfl, rfl⟩ := Prod.mk.inj h
      rfl
    · exact ih h

end Line

/-- A layer of so many rows, each of so many cells. -/
def Layer.Matches (rows cells : Nat) (layer : Layer) : Prop :=
  layer.length = rows ∧ ∀ row ∈ layer, row.length = cells

instance (rows cells : Nat) : DecidablePred (Layer.Matches rows cells) := fun layer => by
  unfold Layer.Matches
  infer_instance

namespace Template

/-- What is said of a layer at `index` that does not match: the number of its rows, or else its
first row with a wrong number of cells. -/
inductive Blames (rows cells index : Nat) (layer : Layer) (span : Span) : Fault → Prop where
  | rows (hr : layer.length ≠ rows) :
    Blames rows cells index layer span ⟨span, .rowCount (index + 1) layer.length rows⟩
  | cells {before after : Layer} {row : List Text} (hr : layer.length = rows)
    (hl : layer = before ++ row :: after) (hb : ∀ other ∈ before, other.length = cells)
    (hc : row.length ≠ cells) :
    Blames rows cells index layer span
      ⟨span, .cellCount (before.length + 1) (index + 1) row.length cells⟩

/-- A search along with the indices ends at the first hit, or finds nothing to hit. -/
theorem find?_zipIdx_cases {α : Type} (p : α → Bool) (items : List α) (start : Nat) :
    ((items.zipIdx start).find? (fun q => p q.1) = none ∧ ∀ a ∈ items, p a = false) ∨
      ∃ before a after, items = before ++ a :: after ∧ (∀ b ∈ before, p b = false) ∧ p a = true ∧
        (items.zipIdx start).find? (fun q => p q.1) = some (a, start + before.length) := by
  induction items generalizing start with
  | nil => exact .inl ⟨rfl, by simp⟩
  | cons first items ih =>
    rw [List.zipIdx_cons]
    cases hp : p first with
    | true => exact .inr ⟨[], first, items, rfl, by simp, hp, by simp [hp]⟩
    | false =>
      rw [List.find?_cons_of_neg (by simp [hp])]
      rcases ih (start + 1) with ⟨hn, hall⟩ | ⟨before, a, after, rfl, hb, ha, hf⟩
      · refine .inl ⟨hn, ?_⟩
        intro a ha
        rcases List.mem_cons.1 ha with rfl | ha
        · exact hp
        · exact hall a ha
      · refine .inr ⟨first :: before, a, after, rfl, ?_, ha, ?_⟩
        · intro b hmem
          rcases List.mem_cons.1 hmem with rfl | hmem
          · exact hp
          · exact hb b hmem
        · rw [hf, List.length_cons]
          congr 2
          omega

/-- Layers that match have no fault, and others the fault that they are blamed for. -/
theorem layerFault?_cases (rows cells index : Nat) (layer : Layer) (span : Span) :
    (layer.Matches rows cells ∧ layerFault? rows cells index layer span = none) ∨
      (¬ layer.Matches rows cells ∧ ∃ fault, layerFault? rows cells index layer span = some fault ∧
        Blames rows cells index layer span fault) := by
  unfold layerFault?
  by_cases hr : layer.length = rows
  · rw [if_neg (by simpa using hr)]
    rcases find?_zipIdx_cases (fun row => decide (row.length ≠ cells)) layer 0 with
      ⟨hf, hall⟩ | ⟨before, row, after, hl, hb, hc, hf⟩
    · exact .inl ⟨⟨hr, by simpa using hall⟩, by rw [hf]; rfl⟩
    · have hc : row.length ≠ cells := by simpa using hc
      refine .inr ⟨fun h => hc (h.2 row (by simp [hl])), _, by rw [hf]; rfl, ?_⟩
      rw [Nat.zero_add]
      exact .cells hr hl (by simpa using hb) hc
  · rw [if_pos hr]
    exact .inr ⟨fun h => hr h.1, _, rfl, .rows hr⟩

/-- The layers among lines, by what their lines look like. -/
theorem placedLayers_eq (lines : List (Text × Span)) :
    placedLayers lines = (lines.filter fun placed => Line.IsLayer placed.1).map fun placed =>
      (readLayer (Text.trim placed.1), placed.2) := by
  induction lines with
  | nil => rfl
  | cons placed lines ih =>
    obtain ⟨line, span⟩ := placed
    by_cases hl : Line.IsLayer line
    · have drawn : Line.Draws line (readLayer (Text.trim line)) :=
        Line.draws_iff.2 ⟨_, hl.read_eq, rfl⟩
      rw [placedLayers_cons_of_draws drawn, List.filter_cons_of_pos (by simpa using hl),
        List.map_cons, ih]
    · have other : ¬ ∃ layer, Line.Draws line layer := by
        intro ⟨layer, drawn⟩
        obtain ⟨row, read, -⟩ := Line.draws_iff.1 drawn
        exact hl (Line.isLayer_of_read_eq read).1
      rw [placedLayers_cons_of_not_draws other, List.filter_cons_of_neg (by simpa using hl), ih]

/-- The faults of the shape: no layers at all, or one for every layer that does not match the first
layer and its first row. -/
inductive ShapeVerdict (size : Nat) : List (Layer × Span) → List Fault → Prop where
  | none : ShapeVerdict size [] [⟨⟨0, size⟩, .noLayers⟩]
  | layers {first : Layer} {span : Span} {rest : List (Layer × Span)} {faults : List Fault}
    (h : List.Forall₂
      (fun item fault =>
        Blames first.length (first.headD []).length item.2 item.1.1 item.1.2 fault)
      (((first, span) :: rest).zipIdx.filter fun item =>
        ¬ item.1.1.Matches first.length (first.headD []).length) faults) :
    ShapeVerdict size ((first, span) :: rest) faults

theorem shapeVerdict (size : Nat) (layers : List (Layer × Span)) :
    ShapeVerdict size layers (shapeFaults size layers) := by
  cases layers with
  | nil => exact .none
  | cons head rest =>
    obtain ⟨first, span⟩ := head
    have faults : shapeFaults size ((first, span) :: rest) =
        ((first, span) :: rest).zipIdx.filterMap fun item =>
          layerFault? first.length (first.headD []).length item.2 item.1.1 item.1.2 := rfl
    rw [faults]
    apply ShapeVerdict.layers
    apply forall₂_filter_filterMap
    intro item _
    have := layerFault?_cases first.length (first.headD []).length item.2 item.1.1 item.1.2
    simpa only [not_not] using this

/-- There are layers, and none of them deviates from the first layer and its first row. -/
def Uniform (layers : List Layer) : Prop :=
  ∃ first rest, layers = first :: rest ∧
    ∀ layer ∈ layers, layer.Matches first.length (first.headD []).length

theorem ShapeVerdict.eq_nil_iff {size : Nat} {layers : List (Layer × Span)} {faults : List Fault}
    (h : ShapeVerdict size layers faults) : faults = [] ↔ Uniform (layers.map Prod.fst) := by
  cases h with
  | none => simp [Uniform]
  | @layers first span rest _ h =>
    rw [← List.length_eq_zero_iff, ← h.length_eq, List.length_eq_zero_iff, List.filter_eq_nil_iff]
    constructor
    · intro hall
      refine ⟨first, _, rfl, ?_⟩
      intro layer hl
      obtain ⟨item, hi, rfl⟩ := List.mem_map.1 hl
      obtain ⟨j, hj⟩ := List.mem_iff_getElem?.1 hi
      have := hall (item, j) (List.mk_mem_zipIdx_iff_getElem?.2 hj)
      simpa using this
    · rintro ⟨_, _, he, hall⟩ item hi
      obtain ⟨rfl, rfl⟩ := List.cons.inj he
      have := hall item.1.1 (List.mem_map_of_mem (List.fst_mem_of_mem_zipIdx hi))
      simpa using this

/-- A text in the format: no directive is broken, there are layers, and all are alike. -/
def Accepted (source : Text) : Prop :=
  ∃ layers, Outlines source [] layers ∧ Uniform (layers.map Prod.fst)

/-- Everything that is wrong with a text, once and in order: the broken directives line by line,
then the shape of the layers. -/
def Refused (source : Text) (faults : List Fault) : Prop :=
  ∃ bad layers directives shape, Outlines source bad layers ∧ faults = directives ++ shape ∧
    List.Forall₂ Line.Blamed bad directives ∧
      ShapeVerdict (Text.byteSize source) layers shape

theorem refused_faults (source : Text) : Refused source (faults source) := by
  refine ⟨_, _, _, _, outlines_ofSource source, rfl, ?_, shapeVerdict _ _⟩
  apply forall₂_filter_filterMap
  intro placed hp
  rw [Line.broken_iff]
  exact Line.lineFault?_cases (Line.stop_of_mem_placeFrom hp)

/-- Only texts in the format have nothing wrong with them. -/
theorem Refused.eq_nil_iff {source : Text} {faults : List Fault} (h : Refused source faults) :
    faults = [] ↔ Accepted source := by
  obtain ⟨bad, layers, directives, shape, outline, rfl, hd, hs⟩ := h
  have none : directives = [] ↔ bad = [] := by
    rw [← List.length_eq_zero_iff, ← hd.length_eq, List.length_eq_zero_iff]
  rw [List.append_eq_nil_iff, none, hs.eq_nil_iff]
  constructor
  · rintro ⟨rfl, uniform⟩
    exact ⟨layers, outline, uniform⟩
  · rintro ⟨layers', outline', uniform⟩
    -- The outline of a text is one and the same for both.
    obtain ⟨rfl, rfl⟩ := outlines_iff.1 outline
    obtain ⟨sound, rfl⟩ := outlines_iff.1 outline'
    exact ⟨sound.symm, uniform⟩

theorem faults_eq_nil_iff (source : Text) : faults source = [] ↔ Accepted source :=
  (refused_faults source).eq_nil_iff

instance : DecidablePred Accepted := fun source => decidable_of_iff _ (faults_eq_nil_iff source)

/-- A text is a template, or it is refused with the list of everything that is wrong. -/
theorem parse_verdict (source : Text) :
    (Accepted source ∧ ∃ template, parse source = .ok template) ∨
      (¬ Accepted source ∧ ∃ faults, parse source = .error faults ∧ Refused source faults) := by
  rw [← faults_eq_nil_iff]
  rcases parse_cases source with ⟨none, ok⟩ | ⟨some, error⟩
  · exact .inl ⟨none, _, ok⟩
  · exact .inr ⟨some, _, error, refused_faults source⟩

/-- Two layers with all that may stand around them, and a text with a fault of every kind, whose
first layer is uneven itself. -/
theorem parse_verdict_wall :
    let wall := Text.ofLines ["# a wall\r", "a=stone\r", " a a   b a\r", "\ta", " a b   b b ",
      "> offset 1 -2 3", "> base dirt"]
    let front : Layer := [[['a'], ['a']], [['b'], ['a']]]
    let back : Layer := [[['a'], ['b']], [['b'], ['b']]]
    let ruin := " a b   a\n> offset 1 x\r\n a b\n> base \n a b   a b".toList
    let faults : List Fault := [⟨⟨20, 21⟩, .unexpected (.word ['x'])⟩, ⟨⟨35, 35⟩, .noBlock⟩,
      ⟨⟨0, 8⟩, .cellCount 2 1 1 2⟩, ⟨⟨23, 27⟩, .rowCount 2 1 2⟩]
    (Outlines wall [] [(front, ⟨19, 29⟩), (back, ⟨34, 45⟩)] ∧ Accepted wall ∧
      ∃ template, parse wall = .ok template) ∧
    ¬ Accepted ruin ∧ parse ruin = .error faults ∧ Refused ruin faults := by
  intro wall front back ruin faults
  have outline : Outlines wall [] [(front, ⟨19, 29⟩), (back, ⟨34, 45⟩)] :=
    outlines_iff.2 ⟨by decide +kernel, by decide +kernel⟩
  have uniform : Uniform [front, back] := ⟨front, [back], rfl, by decide⟩
  have accepted : Accepted wall := ⟨_, outline, uniform⟩
  have wrong : parse ruin = .error faults := by decide +kernel
  refine ⟨⟨outline, ?_⟩, ?_⟩
  · exact (parse_verdict wall).resolve_right fun refused => refused.1 accepted
  · rcases parse_verdict ruin with ⟨-, _, ok⟩ | ⟨refused, found, error, all⟩
    · cases ok.symm.trans wrong
    · obtain rfl := Except.error.inj (error.symm.trans wrong)
      exact ⟨refused, wrong, all⟩

example : Accepted " a".toList ∧ ¬ Accepted "# a".toList := by decide +kernel

end Template
end VoxelTemplate
