import Mathlib.Data.List.Basic
import VoxelTemplate.Proofs.Dict
import VoxelTemplate.Proofs.Template.Directives
import VoxelTemplate.Proofs.Template.Said

/-! The lines of a text class by class: definitions, layers, offsets and bases. The order inside
each class decides everything that a text says; what stands between its lines decides nothing but
the places and the order of the faults. -/
namespace VoxelTemplate

/-- The reason why something does not read. -/
def Fault.causeOf? {α : Type} : Except Fault α → Option Fault.Cause
  | .ok _ => none
  | .error fault => some fault.cause

theorem Fault.causeOf?_eq_none {α : Type} {result : Except Fault α} (h : causeOf? result = none) :
    ∃ a, result = .ok a := by
  cases result with
  | ok a => exact ⟨a, rfl⟩
  | error fault => contradiction

/-- What the lines of a text say, each class by itself. -/
structure Sayings where
  definitions : List (Text × Text)
  rows : List Text
  offsets : List Text
  bases : List Text
deriving DecidableEq

namespace Sayings

def ofLines (lines : List Line) : Sayings where
  definitions := lines.filterMap fun
    | .definition key spec => some (key, spec)
    | _ => none
  rows := lines.filterMap fun
    | .layer row => some row
    | _ => none
  offsets := lines.filterMap fun
    | .offset body => some body
    | _ => none
  bases := lines.filterMap fun
    | .base body => some body
    | _ => none

def ofSource (source : Text) : Sayings := ofLines (Template.said source)

def layers (said : Sayings) : List Layer := said.rows.map Template.readLayer

/-- The template that is said. -/
def template (said : Sayings) : Template where
  specs := Dict.ofList said.definitions
  layers := said.layers
  offset := (said.offsets.filterMap fun body => (Offset.read body).toOption).getLast?.getD default
  base := (said.bases.filterMap fun body => (Base.read body).toOption).getLast?

/-- The template has all layers in their order. Of the definitions of a key the last one holds, of
the directives of a kind the last one, and of the values of a property the last one. -/
structure Describes (said : Sayings) (template : Template) : Prop where
  spec : ∀ key spec, template.spec? key = some spec ↔ Dict.IsLast said.definitions key spec
  layers : template.layers = said.layers
  no_offset : said.offsets = [] → template.offset = ⟨.zero, .zero, .zero⟩
  offset : ∀ body ∈ said.offsets.getLast?, Offset.read body = .ok template.offset
  no_base : said.bases = [] → template.base = none
  base : ∀ body ∈ said.bases.getLast?, ∃ block words base, Text.words body = block :: words ∧
    template.base = some base ∧ base.block = block ∧
      ∀ key value, base.get? key = some value ↔
        Dict.IsLast (words.filterMap Base.property?) key value

theorem ofLines_ofSource (source : Text) :
    Template.ofLines (Line.ofSource source) = (ofSource source).template := by
  have definitions : Template.definitions (Line.ofSource source) =
      (ofSource source).definitions := Template.definitions_eq _
  have layers : (Template.placedLayers (Line.ofSource source)).map Prod.fst =
      (ofSource source).layers := by
    rw [Template.map_fst_placedLayers, Sayings.layers, ofSource, ofLines, List.map_filterMap]
    apply List.filterMap_congr
    intro line _
    cases line <;> rfl
  have offsets : Template.offsets (Line.ofSource source) =
      (ofSource source).offsets.filterMap fun body => (Offset.read body).toOption := by
    rw [Template.offsets_eq, ofSource, ofLines, List.filterMap_filterMap]
    apply List.filterMap_congr
    intro line _
    cases line <;> rfl
  have bases : Template.bases (Line.ofSource source) =
      (ofSource source).bases.filterMap fun body => (Base.read body).toOption := by
    rw [Template.bases_eq, ofSource, ofLines, List.filterMap_filterMap]
    apply List.filterMap_congr
    intro line _
    cases line <;> rfl
  rw [Template.ofLines, definitions, layers, offsets, bases, template]

section Causes

/-- What is wrong with a line by itself. -/
def lineCause? : Line → Option Fault.Cause
  | .offset body => Fault.causeOf? (Offset.read body)
  | .base body => Fault.causeOf? (Base.read body)
  | _ => none

def directiveCauses (said : Sayings) : List Fault.Cause :=
  said.offsets.filterMap (fun body => Fault.causeOf? (Offset.read body)) ++
    said.bases.filterMap fun body => Fault.causeOf? (Base.read body)

def layerCause? (rows cells index : Nat) (layer : Layer) : Option Fault.Cause :=
  (Template.layerFault? rows cells index layer ⟨0, 0⟩).map Fault.cause

def shapeCauses : List Layer → List Fault.Cause
  | [] => [.noLayers]
  | first :: rest => (first :: rest).zipIdx.filterMap fun item =>
      layerCause? first.length (first.headD []).length item.2 item.1

/-- Everything that is wrong, offsets before bases, and the shape last. -/
def causes (said : Sayings) : List Fault.Cause := said.directiveCauses ++ shapeCauses said.layers

theorem cause_lineFault? (line : Text) (span : Span) :
    (Template.lineFault? line span).map Fault.cause = lineCause? (Line.read line) := by
  unfold Template.lineFault? lineCause?
  cases Line.read line with
  | offset body =>
    simp only
    cases Offset.read body <;> rfl
  | base body =>
    simp only
    cases Base.read body <;> rfl
  | comment | definition | layer | ignored => rfl

/-- Answers of one function and of another, which may take turns but never answer both. -/
theorem filterMap_perm_append {α β : Type} {f g h : α → Option β}
    (one : ∀ a, (f a = g a ∧ h a = none) ∨ (f a = h a ∧ g a = none)) (items : List α) :
    (items.filterMap f).Perm (items.filterMap g ++ items.filterMap h) := by
  induction items with
  | nil => exact .refl _
  | cons a items ih =>
    rcases one a with ⟨hf, hh⟩ | ⟨hf, hg⟩
    · rw [List.filterMap_cons_none hh]
      cases hg : g a with
      | none => rwa [List.filterMap_cons_none (hf.trans hg), List.filterMap_cons_none hg]
      | some b =>
        rw [List.filterMap_cons_some (hf.trans hg), List.filterMap_cons_some hg]
        exact ih.cons b
    · rw [List.filterMap_cons_none hg]
      cases hh : h a with
      | none => rwa [List.filterMap_cons_none (hf.trans hh), List.filterMap_cons_none hh]
      | some b =>
        rw [List.filterMap_cons_some (hf.trans hh), List.filterMap_cons_some hh]
        exact (ih.cons b).trans List.perm_middle.symm

theorem filterMap_lineCause?_perm (lines : List Line) :
    (lines.filterMap lineCause?).Perm (ofLines lines).directiveCauses := by
  rw [directiveCauses, ofLines, List.filterMap_filterMap, List.filterMap_filterMap]
  apply filterMap_perm_append
  intro line
  cases line with
  | offset body => exact .inl ⟨rfl, rfl⟩
  | base body => exact .inr ⟨rfl, rfl⟩
  | comment | definition | layer | ignored => exact .inl ⟨rfl, rfl⟩

theorem cause_layerFault? (rows cells index : Nat) (layer : Layer) (span : Span) :
    (Template.layerFault? rows cells index layer span).map Fault.cause =
      layerCause? rows cells index layer := by
  unfold layerCause? Template.layerFault?
  split
  · rfl
  · rw [Option.map_map, Option.map_map]
    rfl

theorem map_cause_shapeFaults (size : Nat) (layers : List (Layer × Span)) :
    (Template.shapeFaults size layers).map Fault.cause = shapeCauses (layers.map Prod.fst) := by
  cases layers with
  | nil => rfl
  | cons head rest =>
    obtain ⟨first, span⟩ := head
    have whole : first :: rest.map Prod.fst = ((first, span) :: rest).map Prod.fst := rfl
    rw [Template.shapeFaults, List.map_filterMap, List.map_cons, shapeCauses, whole,
      List.zipIdx_map, List.filterMap_map]
    apply List.filterMap_congr
    intro item _
    exact cause_layerFault? ..

/-- The faults of a text are those of its sayings, whatever the order of its lines. -/
theorem map_cause_faults_perm (source : Text) :
    ((Template.faults source).map Fault.cause).Perm (ofSource source).causes := by
  have faults : Template.faults source =
      (Line.ofSource source).filterMap (fun placed => Template.lineFault? placed.1 placed.2) ++
        Template.shapeFaults (Text.byteSize source)
          (Template.placedLayers (Line.ofSource source)) := rfl
  have lines : ((Line.ofSource source).filterMap fun placed =>
      Template.lineFault? placed.1 placed.2).map Fault.cause =
        (Template.said source).filterMap lineCause? := by
    rw [List.map_filterMap, Template.said, List.filterMap_map]
    apply List.filterMap_congr
    intro placed _
    exact cause_lineFault? ..
  have layers : (Template.placedLayers (Line.ofSource source)).map Prod.fst =
      (ofSource source).layers := congrArg Template.layers (ofLines_ofSource source)
  rw [faults, List.map_append, lines, map_cause_shapeFaults, layers, causes]
  exact (filterMap_lineCause?_perm _).append_right _

end Causes

section Verdict

theorem getLast?_filterMap {α β : Type} {f : α → Option β} {items : List α}
    (h : ∀ a ∈ items, (f a).isSome = true) :
    (items.filterMap f).getLast? = items.getLast?.bind f := by
  rcases items.eq_nil_or_concat with rfl | ⟨front, last, rfl⟩
  · rfl
  · obtain ⟨b, hb⟩ := Option.isSome_iff_exists.1 (h last (by simp))
    simp [List.filterMap_append, hb]

variable {said : Sayings}

theorem toOption_isSome {α : Type} {result : Except Fault α}
    (h : Fault.causeOf? result = none) : result.toOption.isSome = true := by
  obtain ⟨a, rfl⟩ := Fault.causeOf?_eq_none h
  rfl

/-- Sayings with nothing wrong describe the template that they say. -/
theorem describes_template (h : said.causes = []) : said.Describes said.template := by
  obtain ⟨directives, -⟩ := List.append_eq_nil_iff.1 h
  obtain ⟨offsets, bases⟩ := List.append_eq_nil_iff.1 directives
  rw [List.filterMap_eq_nil_iff] at offsets bases
  have offset_eq : said.template.offset =
      (said.offsets.getLast?.bind fun body => (Offset.read body).toOption).getD default :=
    congrArg (fun last => Option.getD last default)
      (getLast?_filterMap fun body hb => toOption_isSome (offsets body hb))
  have base_eq : said.template.base =
      said.bases.getLast?.bind fun body => (Base.read body).toOption :=
    getLast?_filterMap fun body hb => toOption_isSome (bases body hb)
  refine ⟨fun key spec => Dict.find?_ofList, rfl, ?_, ?_, ?_, ?_⟩
  · intro none
    rw [offset_eq, none]
    rfl
  · intro body hb
    obtain ⟨offset, read⟩ := Fault.causeOf?_eq_none (offsets body (List.mem_of_getLast? hb))
    rw [offset_eq, hb, Option.bind_some, read]
    rfl
  · intro none
    rw [base_eq, none]
    rfl
  · intro body hb
    obtain ⟨base, read⟩ := Fault.causeOf?_eq_none (bases body (List.mem_of_getLast? hb))
    obtain ⟨block, words, hw, rfl⟩ := Base.exists_words_of_read read
    refine ⟨block, words, ⟨block, _⟩, hw, ?_, rfl, fun key value => Dict.find?_ofList⟩
    rw [base_eq, hb, Option.bind_some, read]
    rfl

/-- Two texts that say the same, class by class, are one template, or the same things are wrong with
them, each as often. Between the lines of a class there may be anything. -/
theorem parse_of_sayings_eq {a b : Text} (same : ofSource a = ofSource b) :
    (∃ template, Template.parse a = .ok template ∧ Template.parse b = .ok template ∧
        (ofSource a).Describes template) ∨
      ∃ faults faults', Template.parse a = .error faults ∧ Template.parse b = .error faults' ∧
        (faults.map fun fault => (fault.message, fault.expected)).Perm
          (faults'.map fun fault => (fault.message, fault.expected)) := by
  have causes := map_cause_faults_perm a
  have alike : ((Template.faults a).map Fault.cause).Perm ((Template.faults b).map Fault.cause) :=
    causes.trans (same ▸ (map_cause_faults_perm b).symm)
  have sound : Template.faults a = [] ↔ Template.faults b = [] := by
    rw [← List.length_eq_zero_iff, ← List.length_map (f := Fault.cause), alike.length_eq,
      List.length_map, List.length_eq_zero_iff]
  rcases Template.parse_cases a with ⟨ha, parse⟩ | ⟨ha, parse⟩
  · rcases Template.parse_cases b with ⟨-, parse'⟩ | ⟨hb, -⟩
    · rw [ha, List.map_nil, List.nil_perm] at causes
      rw [ofLines_ofSource] at parse parse'
      exact .inl ⟨_, parse, same ▸ parse', describes_template causes⟩
    · exact absurd (sound.1 ha) hb
  · rcases Template.parse_cases b with ⟨hb, -⟩ | ⟨-, parse'⟩
    · exact absurd (sound.2 hb) ha
    · refine .inr ⟨_, _, parse, parse', ?_⟩
      have said := alike.map fun cause => (cause.message, cause.expected)
      rwa [List.map_map, List.map_map] at said

/-- A shed, and the same with its lines in another order, carriage returns, a comment and lines that
say nothing. -/
theorem parse_of_sayings_eq_shed :
    let a := Text.ofLines
      ["k=dirt", "> base stone margin:1 margin:2", " k k   k #", "k=glass", "> offset 1 2 3",
        "> offset 0 -1 0", " k k   # k"]
    let b := Text.ofLines
      ["# shed\r", "> offset 1 2 3\r", "k=dirt", "\t k = glass\r", "stray\r", " k k   k #  \r",
        "\r", "> offset 0 -1 0\r", "  k k   # k", "> base stone margin:1 margin:2\r"]
    ofSource a = ofSource b ∧ ∃ template, Template.parse a = .ok template ∧
      Template.parse b = .ok template ∧ (ofSource a).Describes template := by
  intro a b
  have same : ofSource a = ofSource b := by decide +kernel
  have sound : Template.faults a = [] := by decide +kernel
  refine ⟨same, ?_⟩
  rcases parse_of_sayings_eq same with one | ⟨faults, -, wrong, -⟩
  · exact one
  · rw [Template.parse_of_faults_eq_nil sound] at wrong
    contradiction

end Verdict

end Sayings
end VoxelTemplate
