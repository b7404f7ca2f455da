import VoxelTemplate.Proofs.Template.Lexemes
import VoxelTemplate.Proofs.Template.Lines
import VoxelTemplate.Proofs.Text.Pieces
import VoxelTemplate.Template.Parse

/-! When the body of a directive reads, said of its lexemes and words, and where the one fault of a
body that does not read starts. -/
namespace VoxelTemplate

namespace Offset

/-- The lexemes of a body are three numbers and nothing else. -/
def IsTriple (body : Text) : Prop :=
  ∃ x y z, (Lexeme.scan body).map Prod.fst = [.number x, .number y, .number z]

theorem fault_isDirective (size last wanted : Nat) (lexemes : List (Lexeme × Span)) :
    (fault size last wanted lexemes).isDirective = true := by
  induction lexemes generalizing last wanted with
  | nil => simp only [fault]; rfl
  | cons lexeme rest ih =>
    obtain ⟨found, span⟩ := lexeme
    cases wanted with
    | zero => simp only [fault]; rfl
    | succ wanted =>
      cases found with
      | number value => exact ih span.stop wanted
      | colon | word | invalid => simp only [fault]; rfl

theorem fault_start_le {size : Nat} (last wanted : Nat) {lexemes : List (Lexeme × Span)}
    (h : ∀ p ∈ lexemes, p.2.start ≤ size) : (fault size last wanted lexemes).span.start ≤ size := by
  induction lexemes generalizing last wanted with
  | nil => simp only [fault, Nat.le_refl]
  | cons lexeme rest ih =>
    obtain ⟨found, span⟩ := lexeme
    have hspan : span.start ≤ size := h _ List.mem_cons_self
    cases wanted with
    | zero => exact hspan
    | succ wanted =>
      cases found with
      | number value => exact ih span.stop wanted fun p hp => h p (List.mem_cons_of_mem _ hp)
      | colon | word | invalid => exact hspan

theorem read_eq {body : Text} {x y z : Coord}
    (h : (Lexeme.scan body).map Prod.fst = [.number x, .number y, .number z]) :
    read body = .ok ⟨x, y, z⟩ := by
  simp only [List.map_eq_cons_iff, List.map_eq_nil_iff] at h
  obtain ⟨⟨_, sx⟩, _, hl, rfl, ⟨_, sy⟩, _, rfl, rfl, ⟨_, sz⟩, _, rfl, rfl, rfl⟩ := h
  rw [read, hl]

/-- A body reads, or it has one fault, which is a directive's and starts inside the body. -/
theorem read_cases (body : Text) :
    (IsTriple body ∧ ∃ offset, read body = .ok offset) ∨
      (¬ IsTriple body ∧ ∃ fault, read body = .error fault ∧ fault.isDirective = true ∧
        fault.span.start ≤ Text.byteSize body) := by
  by_cases ht : IsTriple body
  · obtain ⟨x, y, z, h⟩ := ht
    exact .inl ⟨⟨x, y, z, h⟩, _, read_eq h⟩
  · refine .inr ⟨ht, ?_⟩
    unfold read
    split
    · next x _ y _ z _ h => exact absurd ⟨x, y, z, by rw [h]; rfl⟩ ht
    · refine ⟨_, rfl, fault_isDirective .., fault_start_le _ _ ?_⟩
      rintro ⟨found, span⟩ hp
      have := Lexeme.scanFrom_span hp
      simp only
      omega

end Offset

namespace Base

/-- The property that a word sets, if it sets one. -/
def property? (word : Text) : Option (Text × Text) :=
  match Text.splitFirst? ':' word with
  | some (key, value) => if key.isEmpty then none else some (key, value)
  | none => none

theorem foldl_addWord_eq (words : List Text) (base : Base) :
    words.foldl addWord base = ⟨base.block, (words.filterMap property?).foldl
      (fun dict entry => dict.insert entry.1 entry.2) base.properties⟩ := by
  induction words generalizing base with
  | nil => rfl
  | cons word words ih =>
    rw [List.foldl_cons, ih, List.filterMap_cons, addWord, property?]
    cases Text.splitFirst? ':' word with
    | none => rfl
    | some sides => cases hk : sides.1.isEmpty <;> simp [hk, set]

/-- A base is its first word and the properties that the others set. -/
theorem read_eq {body block : Text} {words : List Text} (h : Text.words body = block :: words) :
    read body = .ok ⟨block, Dict.ofList (words.filterMap property?)⟩ := by
  rw [read, h]
  exact congrArg Except.ok (foldl_addWord_eq words (ofBlock block))

theorem exists_words_of_read {body : Text} {base : Base} (h : read body = .ok base) :
    ∃ block words, Text.words body = block :: words ∧
      base = ⟨block, Dict.ofList (words.filterMap property?)⟩ := by
  cases hw : Text.words body with
  | nil =>
    rw [read, hw] at h
    contradiction
  | cons block words =>
    rw [read_eq hw] at h
    exact ⟨block, words, rfl, (Except.ok.inj h).symm⟩

theorem read_cases (body : Text) :
    ((∃ c ∈ body, Text.isBlank c = false) ∧ ∃ base, read body = .ok base) ∨
      ((∀ c ∈ body, Text.isBlank c = true) ∧ ∃ fault, read body = .error fault ∧
        fault.isDirective = true ∧ fault.span.start ≤ Text.byteSize body) := by
  unfold read
  split
  · next h => exact .inr ⟨Text.words_eq_nil_iff.1 h, _, rfl, rfl, Nat.zero_le _⟩
  · next block words h =>
    refine .inl ⟨?_, _, rfl⟩
    have spoken : ¬ ∀ c ∈ body, Text.isBlank c = true := by
      rw [← Text.words_eq_nil_iff, h]
      simp
    simpa using spoken

end Base

namespace Line

/-- A directive whose body does not read: an offset that is not three numbers, or a base without
a word. -/
def IsBad (line : Text) : Prop :=
  (∃ body, Says line (.offset body) ∧ ¬ Offset.IsTriple body) ∨
    ∃ body, Says line (.base body) ∧ ∀ c ∈ body, Text.isBlank c = true

/-- A fault that a directive is to blame for, at or after the line's first byte and not after its
last. -/
structure Blamed (placed : Text × Span) (fault : Fault) : Prop where
  directive : fault.isDirective = true
  after_start : placed.2.start ≤ fault.span.start
  before_stop : fault.span.start ≤ placed.2.stop

theorem blamed_shift {line body lead : Text} {span : Span} {fault : Fault}
    (hl : line = lead ++ body) (hlead : lead.length = Text.byteSize lead)
    (hs : span.stop = span.start + Text.byteSize line) (hd : fault.isDirective = true)
    (hf : fault.span.start ≤ Text.byteSize body) :
    Blamed (line, span) (fault.shift (span.start + lead.length)) := by
  have size := congrArg Text.byteSize hl
  rw [Text.byteSize_append] at size
  refine ⟨hd, ?_, ?_⟩ <;> simp only [Fault.shift, Span.shift] <;> omega

/-- Bad lines have one fault each, and other lines none. -/
theorem lineFault?_cases {line : Text} {span : Span}
    (hs : span.stop = span.start + Text.byteSize line) :
    (¬ IsBad line ∧ Template.lineFault? line span = none) ∨
      (IsBad line ∧ ∃ fault, Template.lineFault? line span = some fault ∧
        Blamed (line, span) fault) := by
  have good (h : ∀ body, read line ≠ .offset body ∧ read line ≠ .base body) : ¬ IsBad line := by
    rintro (⟨body, hb, -⟩ | ⟨body, hb, -⟩)
    · exact (h body).1 (says_iff.1 hb)
    · exact (h body).2 (says_iff.1 hb)
  have said := says_read line
  unfold Template.lineFault?
  cases hr : read line with
  | offset body =>
    rw [hr] at said
    have only (h : IsBad line) : ¬ Offset.IsTriple body := by
      rcases h with ⟨other, ho, hn⟩ | ⟨other, ho, -⟩
      · obtain rfl : body = other := by simpa [hr] using says_iff.1 ho
        exact hn
      · cases hr.symm.trans (says_iff.1 ho)
    rcases Offset.read_cases body with ⟨ht, offset, ho⟩ | ⟨ht, fault, ho, hd, hf⟩
    · exact .inl ⟨fun h => only h ht, by simp only [ho]⟩
    · refine .inr ⟨.inl ⟨body, said, ht⟩, fault.shift (span.start + offsetMark.length), ?_, ?_⟩
      · simp only [ho]
      · cases said with
        | offset _ _ hl => exact blamed_shift hl rfl hs hd hf
  | base body =>
    rw [hr] at said
    have only (h : IsBad line) : ∀ c ∈ body, Text.isBlank c = true := by
      rcases h with ⟨other, ho, -⟩ | ⟨other, ho, hn⟩
      · cases hr.symm.trans (says_iff.1 ho)
      · obtain rfl : body = other := by simpa [hr] using says_iff.1 ho
        exact hn
    rcases Base.read_cases body with ⟨⟨c, hc, hw⟩, base, hb⟩ | ⟨hn, fault, hb, hd, hf⟩
    · refine .inl ⟨?_, by simp only [hb]⟩
      intro h
      rw [only h c hc] at hw
      contradiction
    · refine .inr ⟨.inr ⟨body, said, hn⟩, fault.shift (span.start + baseMark.length), ?_, ?_⟩
      · simp only [hb]
      · cases said with
        | base _ _ hl => exact blamed_shift hl rfl hs hd hf
  | comment | definition | layer | ignored => exact .inl ⟨good (by simp [hr]), rfl⟩

theorem isBad_iff {line : Text} :
    IsBad line ↔ (Template.lineFault? line ⟨0, Text.byteSize line⟩).isSome = true := by
  have hs : (Span.mk 0 (Text.byteSize line)).stop = 0 + Text.byteSize line :=
    (Nat.zero_add _).symm
  rcases lineFault?_cases hs with ⟨hb, hf⟩ | ⟨hb, fault, hf, -⟩
  · simp [hb, hf]
  · simp [hb, hf]

instance : DecidablePred IsBad := fun _ => decidable_of_iff _ isBad_iff.symm

end Line
end VoxelTemplate
