import VoxelTemplate.Proofs.Template.Lines
import VoxelTemplate.Proofs.Text.Numeral
import VoxelTemplate.Proofs.Text.Pieces

/-! Lines put together from words: a phrase keeps its ends under trimming and has no character that
would part it or make a definition of it, so the line around it says what it was written for. -/
namespace VoxelTemplate

namespace Text

/-- Text that stands as one word of a layer or a directive. -/
structure IsWord (text : Text) : Prop where
  spoken : text ≠ []
  unbroken : ∀ c ∈ text, isBlank c = false
  no_equals : '=' ∉ text

instance : DecidablePred IsWord := fun text =>
  decidable_of_iff (text ≠ [] ∧ (text.all fun c => !isBlank c) = true ∧ '=' ∉ text)
    ⟨fun h => ⟨h.1, by simpa using h.2.1, h.2.2⟩,
      fun h => ⟨h.spoken, by simpa using h.unbroken, h.no_equals⟩⟩

structure Phrase (text : Text) : Prop where
  solid : Solid text
  no_equals : '=' ∉ text
  no_feed : '\n' ∉ text

theorem not_mem_of_isBlank {text : Text} (h : ∀ c ∈ text, isBlank c = false) {c : Char}
    (hc : isBlank c = true) : c ∉ text := fun hm => by simp [h c hm] at hc

theorem IsWord.phrase {text : Text} (h : IsWord text) : Phrase text where
  solid := .of_forall h.spoken h.unbroken
  no_equals := h.no_equals
  no_feed := not_mem_of_isBlank h.unbroken (by decide)

theorem Phrase.join {sep : Text} {pieces : List Text} (hs : ∀ c ∈ sep, c = ' ')
    (hne : pieces ≠ []) (h : ∀ piece ∈ pieces, Phrase piece) : Phrase (Text.join sep pieces) where
  solid := .join hne fun piece hp => (h piece hp).solid
  no_equals := fun hm => by
    rcases mem_join hm with hm | ⟨piece, hp, hm⟩
    · simpa using hs _ hm
    · exact (h piece hp).no_equals hm
  no_feed := fun hm => by
    rcases mem_join hm with hm | ⟨piece, hp, hm⟩
    · simpa using hs _ hm
    · exact (h piece hp).no_feed hm

theorem Phrase.words {words : List Text} (hne : words ≠ []) (h : ∀ word ∈ words, IsWord word) :
    Phrase (Text.join [' '] words) :=
  .join (by simp) hne fun word hw => (h word hw).phrase

theorem isBlank_of_isDigit {c : Char} (h : c.isDigit = true) : isBlank c = false ∧ c ≠ '=' := by
  have range : 48 ≤ c.toNat ∧ c.toNat ≤ 57 := by
    simpa [Char.isDigit, UInt32.le_iff_toNat_le] using h
  constructor
  · simp only [isBlank, blankRanges, List.any_cons, List.any_nil, Bool.or_false,
      Bool.or_eq_false_iff, Bool.and_eq_false_iff, decide_eq_false_iff_not]
    omega
  · rintro rfl
    contradiction

end Text

theorem Coord.isWord_toText (a : Coord) : a.toText.IsWord := by
  obtain ⟨c, digits, ha, hd, hc⟩ := a.literal_toText.eq_cons
  have lead : Text.isBlank c = false ∧ c ≠ '=' := by
    rcases hc with hc | ⟨rfl, -⟩
    · exact Text.isBlank_of_isDigit hc
    · decide
  have all : ∀ d ∈ a.toText, Text.isBlank d = false ∧ d ≠ '=' := by
    rw [ha]
    intro d hm
    rcases List.mem_cons.1 hm with rfl | hm
    · exact lead
    · exact Text.isBlank_of_isDigit (hd d hm)
  exact ⟨by simp [ha], fun d hm => (all d hm).1, fun hm => (all _ hm).2 rfl⟩

namespace Line

/-- A line that is its own: nothing parts it, and no carriage return at its end is dropped. -/
structure Kept (line : Text) : Prop where
  no_feed : '\n' ∉ line
  no_return : dropReturn line = line

theorem Kept.of_solid (lead : Text) {body : Text} (h : Text.Solid body) (hl : '\n' ∉ lead)
    (hb : '\n' ∉ body) : Kept (lead ++ body) := by
  obtain ⟨front, c, rfl, hc⟩ := h.last
  refine ⟨by simpa using ⟨hl, by simpa using hb⟩, ?_⟩
  have mark : c ≠ '\r' := by
    rintro rfl
    contradiction
  rw [dropReturn, if_neg]
  simpa using mark

theorem not_silent {line : Text} (hs : Text.Solid (Text.trim line))
    (hm : (Text.trim line).head? ≠ some '#') : ¬ Silent line := by
  rintro (h | h)
  · obtain ⟨c, rest, hc, -⟩ := hs.first
    simp [h] at hc
  · exact hm h

theorem read_layer {row : Text} (h : row.Phrase) (hm : row.head? ≠ some '#') :
    read (' ' :: row) = .layer row := by
  have blank : ∀ c ∈ [' '] ++ [], Text.isBlank c = true := List.forall_mem_singleton.2 (by decide)
  have core : Text.Core (' ' :: row) row :=
    ⟨⟨[' '], [], by rw [List.append_nil, List.singleton_append], blank⟩, h.solid⟩
  exact (says_layer_iff.2 ⟨rfl, by simpa using h.no_equals, core, hm⟩).read_eq

theorem read_offset {body : Text} (h : body.Phrase) : read (offsetMark ++ body) = .offset body := by
  have equals : '=' ∉ offsetMark ++ body := by
    rw [List.mem_append, not_or]
    exact ⟨by decide, h.no_equals⟩
  exact (says_offset_iff.2 ⟨rfl, equals⟩).read_eq

theorem read_base {body : Text} (h : body.Phrase) : read (baseMark ++ body) = .base body := by
  have equals : '=' ∉ baseMark ++ body := by
    rw [List.mem_append, not_or]
    exact ⟨by decide, h.no_equals⟩
  exact (says_base_iff.2 ⟨rfl, equals⟩).read_eq

theorem solid_definition {key spec : Text} (hk : Text.trim key = key)
    (hs : Text.trim spec = spec) : Text.Solid (key ++ '=' :: spec) := by
  constructor
  · cases key with
    | nil => exact ⟨'=', spec, rfl, by decide⟩
    | cons c rest =>
      obtain ⟨d, others, he, hd⟩ := (Text.Solid.of_trim_eq hk (by simp)).first
      exact ⟨d, others ++ '=' :: spec, by rw [he]; rfl, hd⟩
  · cases spec with
    | nil => exact ⟨key, '=', rfl, by decide⟩
    | cons c rest =>
      obtain ⟨front, d, he, hd⟩ := (Text.Solid.of_trim_eq hs (by simp)).last
      exact ⟨key ++ '=' :: front, d, by rw [he]; simp, hd⟩

theorem read_definition {key spec : Text} (he : '=' ∉ key) (hk : Text.trim key = key)
    (hm : key.head? ≠ some '#') (hs : Text.trim spec = spec) :
    read (key ++ '=' :: spec) = .definition key spec := by
  have solid := solid_definition hk hs
  have silent : ¬ Silent (key ++ '=' :: spec) := by
    refine not_silent (by rw [solid.trim_eq]; exact solid) ?_
    rw [solid.trim_eq]
    cases key with
    | nil => simp
    | cons c rest => simpa using hm
  have said := Says.definition silent rfl he
  rw [said.read_eq, hk, hs]

end Line
end VoxelTemplate
