import Mathlib.Data.List.Basic
import VoxelTemplate.Proofs.Dict
import VoxelTemplate.Proofs.Template.Directives
import VoxelTemplate.Proofs.Template.Phrases

/-! The bodies of printed lines: an offset, a base and a layer as words, and that cutting and
reading the words gives back what they were written for. -/
namespace VoxelTemplate

namespace Base

/-- A block and properties that fit on the line of a base. -/
structure Printable (base : Base) : Prop where
  block : base.block.IsWord
  names : ∀ e ∈ base.properties.entries, e.1.IsWord ∧ ':' ∉ e.1
  values : ∀ e ∈ base.properties.entries,
    (∀ c ∈ e.2, Text.isBlank c = false) ∧ '=' ∉ e.2

instance : DecidablePred Printable := fun base =>
  decidable_of_iff (base.block.IsWord ∧
      (∀ e ∈ base.properties.entries, e.1.IsWord ∧ ':' ∉ e.1) ∧
      ∀ e ∈ base.properties.entries, (e.2.all fun c => !Text.isBlank c) = true ∧ '=' ∉ e.2)
    ⟨fun h => ⟨h.1, h.2.1, by simpa using h.2.2⟩,
      fun h => ⟨h.block, h.names, by simpa using h.values⟩⟩

def property (entry : Text × Text) : Text := entry.1 ++ ':' :: entry.2

def bodyText (block : Text) (properties : List (Text × Text)) : Text :=
  Text.join [' '] (block :: properties.map property)

theorem isWord_property {name value : Text} (hn : name.IsWord)
    (hv : ∀ c ∈ value, Text.isBlank c = false) (he : '=' ∉ value) :
    (property (name, value)).IsWord where
  spoken := by simp [property]
  unbroken := fun c hc => by
    rcases List.mem_append.1 hc with hc | hc
    · exact hn.unbroken c hc
    · rcases List.mem_cons.1 hc with rfl | hc
      · decide
      · exact hv c hc
  no_equals := by simpa [property] using ⟨hn.no_equals, he⟩

theorem property?_property {entry : Text × Text} (hn : entry.1 ≠ []) (hc : ':' ∉ entry.1) :
    property? (property entry) = some entry := by
  rw [property?, property, Text.splitFirst?_append hc]
  simp [hn]

theorem filterMap_property?_map {properties : List (Text × Text)}
    (h : ∀ e ∈ properties, e.1 ≠ [] ∧ ':' ∉ e.1) :
    (properties.map property).filterMap property? = properties := by
  have back : ∀ e ∈ properties, (property? ∘ property) e = some e :=
    fun e he => property?_property (h e he).1 (h e he).2
  rw [List.filterMap_map, List.filterMap_congr back, List.filterMap_some]

variable {base : Base} {properties : List (Text × Text)}

theorem Printable.isWord (h : base.Printable) (hp : properties.Perm base.properties.entries) :
    ∀ word ∈ base.block :: properties.map property, word.IsWord := by
  intro word hw
  rcases List.mem_cons.1 hw with rfl | hw
  · exact h.block
  · obtain ⟨e, he, rfl⟩ := List.mem_map.1 hw
    have he := hp.mem_iff.1 he
    exact isWord_property (h.names e he).1 (h.values e he).1 (h.values e he).2

theorem Printable.read_bodyText (h : base.Printable)
    (hp : properties.Perm base.properties.entries) :
    read (bodyText base.block properties) = .ok base := by
  have words := Text.words_join fun word hw =>
    have := h.isWord hp word hw
    ⟨this.spoken, this.unbroken⟩
  have names : ∀ e ∈ properties, e.1 ≠ [] ∧ ':' ∉ e.1 := fun e he =>
    have := h.names e (hp.mem_iff.1 he)
    ⟨this.1.spoken, this.2⟩
  rw [bodyText, read_eq words, filterMap_property?_map names, Dict.ofList_of_perm hp]

end Base

namespace Offset

def bodyText (offset : Offset) : Text :=
  Text.join [' '] [offset.x.toText, offset.y.toText, offset.z.toText]

theorem phrase_bodyText (offset : Offset) : offset.bodyText.Phrase :=
  .words (by simp) (by simp [Coord.isWord_toText])

theorem read_bodyText (offset : Offset) : read offset.bodyText = .ok offset :=
  read_eq (Lexeme.scan_triple offset.x offset.y offset.z)

end Offset

namespace Layer

def bodyText (layer : Layer) : Text := Text.join "   ".toList (layer.map (Text.join [' ']))

/-- Rows of words, at least one in each. -/
structure Printable (layer : Layer) : Prop where
  tall : layer ≠ []
  wide : ∀ row ∈ layer, row ≠ []
  words : ∀ row ∈ layer, ∀ key ∈ row, Text.IsWord key
  spoken : ((layer.headD []).headD []).head? ≠ some '#'

instance : DecidablePred Printable := fun layer =>
  decidable_of_iff (layer ≠ [] ∧ (∀ row ∈ layer, row ≠ []) ∧
      (∀ row ∈ layer, ∀ key ∈ row, Text.IsWord key) ∧
      ((layer.headD []).headD []).head? ≠ some '#')
    ⟨fun h => ⟨h.1, h.2.1, h.2.2.1, h.2.2.2⟩, fun h => ⟨h.tall, h.wide, h.words, h.spoken⟩⟩

variable {layer : Layer}

theorem Printable.phrase (h : layer.Printable) : layer.bodyText.Phrase := by
  apply Text.Phrase.join (by simp) (by simpa using h.tall)
  intro piece hp
  obtain ⟨row, hr, rfl⟩ := List.mem_map.1 hp
  exact .words (h.wide row hr) (h.words row hr)

theorem Printable.head?_ne (h : layer.Printable) : layer.bodyText.head? ≠ some '#' := by
  obtain ⟨row, rows, rfl⟩ := List.exists_cons_of_ne_nil h.tall
  obtain ⟨key, keys, rfl⟩ := List.exists_cons_of_ne_nil (h.wide row List.mem_cons_self)
  have key_ne := (h.words _ List.mem_cons_self key List.mem_cons_self).spoken
  have row_head := Text.head?_join [' '] key_ne keys
  have row_ne : Text.join [' '] (key :: keys) ≠ [] := fun he => by
    rw [he, eq_comm, List.head?_nil, List.head?_eq_none_iff] at row_head
    exact key_ne row_head
  rw [bodyText, List.map_cons, Text.head?_join _ row_ne, row_head]
  exact h.spoken

/-- Cutting into rows and then into cells undoes joining. -/
theorem Printable.readLayer_bodyText (h : layer.Printable) :
    Template.readLayer layer.bodyText = layer := by
  have space : ∀ row ∈ layer, ∀ key ∈ row, ' ' ∉ key := fun row hr key hk =>
    Text.not_mem_of_isBlank (h.words row hr key hk).unbroken (by decide)
  rw [Template.readLayer, bodyText, Text.splitTripleSpace_join h.tall fun row hr =>
    ⟨h.wide row hr, fun key hk => ⟨(h.words row hr key hk).spoken, space row hr key hk⟩⟩,
    List.map_map]
  have cut : ∀ row ∈ layer, (Text.split ' ' ∘ Text.join [' ']) row = id row := by
    intro row hr
    exact Text.split_join (h.wide row hr) (space row hr)
  rw [List.map_congr_left cut, List.map_id]

end Layer

end VoxelTemplate
