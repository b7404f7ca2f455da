import VoxelTemplate.Proofs.Template.Said
import VoxelTemplate.Proofs.Template.Verdict

/-! The bytes that faults span. All of them lie in the text. A span ends before it starts in one
case: an offset has one or two numbers and nothing else, and a gap behind the last of them. -/
namespace VoxelTemplate

/-- Both ends lie among the first `size` bytes. -/
structure Span.Within (size : Nat) (span : Span) : Prop where
  start_le : span.start ≤ size
  stop_le : span.stop ≤ size

namespace Offset

/-- At most so many lexemes, all of them numbers. -/
def AtMost (wanted : Nat) (lexemes : List (Lexeme × Span)) : Prop :=
  lexemes.length ≤ wanted ∧ ∀ p ∈ lexemes, ∃ x, p.1 = .number x

/-- Where the last lexeme ends, or `last` if there is none. -/
def stopAfter (last : Nat) (lexemes : List (Lexeme × Span)) : Nat :=
  lexemes.getLast?.elim last fun p => p.2.stop

theorem stopAfter_cons (last : Nat) (p : Lexeme × Span) (rest : List (Lexeme × Span)) :
    stopAfter last (p :: rest) = stopAfter p.2.stop rest := by
  rw [stopAfter, stopAfter, List.getLast?_cons]
  cases rest.getLast? <;> rfl

/-- The first lexeme that may not stand where it does, and why: it is no number in the place of one
of the wanted numbers, or it stands behind them. -/
inductive Offends (wanted : Nat) (lexemes : List (Lexeme × Span)) :
    Lexeme × Span → Fault.Cause → Prop where
  | unexpected {numbers more : List (Lexeme × Span)} {p : Lexeme × Span}
    (h : lexemes = numbers ++ p :: more) (hn : ∀ q ∈ numbers, ∃ x, q.1 = .number x)
    (place : numbers.length < wanted) (other : ∀ x, p.1 ≠ .number x) :
    Offends wanted lexemes p (.unexpected p.1)
  | surplus {numbers more : List (Lexeme × Span)} {p : Lexeme × Span}
    (h : lexemes = numbers ++ p :: more) (hn : ∀ q ∈ numbers, ∃ x, q.1 = .number x)
    (place : numbers.length = wanted) : Offends wanted lexemes p (.surplus p.1)

theorem Offends.cons {wanted : Nat} {lexemes : List (Lexeme × Span)} {p : Lexeme × Span}
    {cause : Fault.Cause} (h : Offends wanted lexemes p cause) (value : Coord) (span : Span) :
    Offends (wanted + 1) ((.number value, span) :: lexemes) p cause := by
  have more {numbers : List (Lexeme × Span)} (hn : ∀ q ∈ numbers, ∃ x, q.1 = .number x) :
      ∀ q ∈ (.number value, span) :: numbers, ∃ x, q.1 = .number x :=
    List.forall_mem_cons.2 ⟨⟨value, rfl⟩, hn⟩
  cases h with
  | unexpected h hn place other =>
    exact .unexpected (congrArg _ h) (more hn) (Nat.succ_lt_succ place) other
  | surplus h hn place => exact .surplus (congrArg _ h) (more hn) (congrArg Nat.succ place)

theorem Offends.mem {wanted : Nat} {lexemes : List (Lexeme × Span)} {p : Lexeme × Span}
    {cause : Fault.Cause} (h : Offends wanted lexemes p cause) : p ∈ lexemes := by
  cases h with
  | unexpected h | surplus h =>
    rw [h]
    exact List.mem_append_right _ List.mem_cons_self

/-- A fault spans the lexeme that offends, or it goes from the end of the body back to the end of
the numbers. -/
theorem fault_cases (size last wanted : Nat) (lexemes : List (Lexeme × Span)) :
    (¬ AtMost wanted lexemes ∧ ∃ p cause, Offends wanted lexemes p cause ∧
        fault size last wanted lexemes = ⟨p.2, cause⟩) ∨
      (AtMost wanted lexemes ∧
        fault size last wanted lexemes = ⟨⟨size, stopAfter last lexemes⟩, .unexpectedEnd⟩) := by
  induction lexemes generalizing last wanted with
  | nil => exact .inr ⟨⟨Nat.zero_le _, by simp⟩, by simp only [fault]; rfl⟩
  | cons lexeme rest ih =>
    obtain ⟨found, span⟩ := lexeme
    cases wanted with
    | zero =>
      exact .inl ⟨fun h => by simp [AtMost] at h, _, _,
        .surplus (List.nil_append _).symm (by simp) rfl, rfl⟩
    | succ wanted =>
      cases found with
      | number value =>
        have next : fault size last (wanted + 1) ((.number value, span) :: rest) =
            fault size span.stop wanted rest := rfl
        have short : AtMost (wanted + 1) ((.number value, span) :: rest) ↔ AtMost wanted rest := by
          simp [AtMost]
        rw [next, short, stopAfter_cons]
        rcases ih span.stop wanted with ⟨more, p, cause, offends, hf⟩ | short
        · exact .inl ⟨more, p, cause, offends.cons value span, hf⟩
        · exact .inr short
      | colon | word | invalid =>
        refine .inl ⟨fun h => ?_, _, _, .unexpected (List.nil_append _).symm (by simp)
          (Nat.succ_pos _) fun x hx => by contradiction, rfl⟩
        obtain ⟨x, hx⟩ := h.2 _ List.mem_cons_self
        contradiction

/-- One number or two, nothing else, and a gap behind. -/
structure TrailsOff (body : Text) : Prop where
  gap : Lexeme.EndsInGap body
  started : Lexeme.scan body ≠ []
  short : AtMost 2 (Lexeme.scan body)

theorem TrailsOff.not_isTriple {body : Text} (h : TrailsOff body) : ¬ IsTriple body := by
  rintro ⟨x, y, z, triple⟩
  have length := congrArg List.length triple
  have := h.short.1
  simp only [List.length_map, List.length_cons, List.length_nil] at length
  omega

theorem isTriple_of_atMost {body : Text} (h : AtMost 3 (Lexeme.scan body)) :
    IsTriple body ∨ AtMost 2 (Lexeme.scan body) := by
  obtain ⟨short, numbers⟩ := h
  rcases Nat.lt_or_eq_of_le short with fewer | three
  · exact .inr ⟨Nat.le_of_lt_succ fewer, numbers⟩
  · obtain ⟨p, q, r, he⟩ := List.length_eq_three.1 three
    simp only [he, List.mem_cons, List.not_mem_nil, or_false, forall_eq_or_imp,
      forall_eq] at numbers
    obtain ⟨⟨x, hx⟩, ⟨y, hy⟩, ⟨z, hz⟩⟩ := numbers
    exact .inl ⟨x, y, z, by rw [he]; simp [hx, hy, hz]⟩

theorem stopAfter_lt_iff {body : Text} (started : Lexeme.scan body ≠ []) :
    stopAfter (Text.byteSize body) (Lexeme.scan body) < Text.byteSize body ↔
      Lexeme.EndsInGap body := by
  have last := List.getLast?_eq_some_getLast started
  have stop : _ < 0 + Text.byteSize body ↔ _ := Lexeme.last_stop_lt_iff last
  rw [Nat.zero_add] at stop
  rw [← stop, stopAfter, last, Option.elim_some]

/-- A body that is refused is at fault in its lexemes. -/
theorem fault_of_read {body : Text} {fault : Fault} (h : read body = .error fault) :
    ¬ IsTriple body ∧
      fault = Offset.fault (Text.byteSize body) (Text.byteSize body) 3 (Lexeme.scan body) := by
  constructor
  · rintro ⟨x, y, z, ht⟩
    rw [read_eq ht] at h
    contradiction
  · unfold read at h
    split at h
    · contradiction
    · exact (Except.error.inj h).symm

/-- The fault of an offset lies in its body, and is the wrong way round if the body trails off. -/
theorem span_of_read {body : Text} {fault : Fault} (h : read body = .error fault) :
    fault.span.Within (Text.byteSize body) ∧
      (fault.span.stop < fault.span.start ↔ TrailsOff body) := by
  obtain ⟨triple, rfl⟩ := fault_of_read h
  have inside (p : Lexeme × Span) (hp : p ∈ Lexeme.scan body) :
      p.2.start ≤ p.2.stop ∧ p.2.stop ≤ Text.byteSize body := by
    obtain ⟨-, ordered, stop⟩ := Lexeme.scanFrom_span hp
    exact ⟨ordered, by rwa [Nat.zero_add] at stop⟩
  rcases fault_cases (Text.byteSize body) (Text.byteSize body) 3 (Lexeme.scan body) with
    ⟨long, p, cause, offends, hf⟩ | ⟨short, hf⟩
  · obtain ⟨ordered, last⟩ := inside p offends.mem
    have trails : ¬ TrailsOff body := fun t => long ⟨Nat.le_succ_of_le t.short.1, t.short.2⟩
    rw [hf, iff_false_right trails]
    exact ⟨⟨Nat.le_trans ordered last, last⟩, Nat.not_lt.2 ordered⟩
  · have two := (isTriple_of_atMost short).resolve_left triple
    rw [hf]
    by_cases started : Lexeme.scan body = []
    · have stop : stopAfter (Text.byteSize body) (Lexeme.scan body) = Text.byteSize body := by
        rw [started]
        rfl
      rw [stop, iff_false_right fun t => t.started started]
      exact ⟨⟨Nat.le_refl _, Nat.le_refl _⟩, Nat.lt_irrefl _⟩
    · have stop := stopAfter_lt_iff started
      have last := List.getLast?_eq_some_getLast started
      have stop_le : stopAfter (Text.byteSize body) (Lexeme.scan body) ≤ Text.byteSize body := by
        rw [stopAfter, last]
        exact (inside _ (List.getLast_mem started)).2
      exact ⟨⟨Nat.le_refl _, stop_le⟩, fun lt => ⟨stop.1 lt, started, two⟩, fun t => stop.2 t.gap⟩

end Offset

/-- A base that is refused is at fault throughout. -/
theorem Base.fault_of_read {body : Text} {fault : Fault} (h : read body = .error fault) :
    (∀ c ∈ body, Text.isBlank c = true) ∧ fault = ⟨⟨0, Text.byteSize body⟩, .noBlock⟩ := by
  unfold read at h
  split at h
  · next silent => exact ⟨Text.words_eq_nil_iff.1 silent, (Except.error.inj h).symm⟩
  · contradiction

namespace Line

/-- An offset that trails off. -/
def TrailsOff : Line → Prop
  | .offset body => Offset.TrailsOff body
  | _ => False

theorem dropReturn_front (raw : Text) : dropReturn raw <+: raw := by
  unfold dropReturn
  split
  · exact List.dropLast_prefix raw
  · exact List.prefix_refl raw

theorem byteSize_dropReturn_le (raw : Text) :
    Text.byteSize (dropReturn raw) ≤ Text.byteSize raw := by
  obtain ⟨ending, whole⟩ := dropReturn_front raw
  have size := congrArg Text.byteSize whole
  rw [Text.byteSize_append] at size
  omega

/-- Every line lies in the text. -/
theorem stop_le_of_mem_placeFrom {start : Nat} {lines : List Text} {placed : Text × Span}
    (h : placed ∈ placeFrom start lines) :
    placed.2.stop ≤ start + Text.byteSize (Text.join ['\n'] lines) := by
  induction lines generalizing start with
  | nil => contradiction
  | cons raw rest ih =>
    have size := byteSize_dropReturn_le raw
    rcases List.mem_cons.1 h with rfl | h
    · cases rest with
      | nil => exact Nat.add_le_add_left size start
      | cons next rest =>
        simp only [Text.join_cons_cons, Text.byteSize_append]
        omega
    · cases rest with
      | nil => contradiction
      | cons next rest =>
        have := ih h
        have feed : Text.byteSize ['\n'] = 1 := rfl
        simp only [Text.join_cons_cons, Text.byteSize_append, feed]
        omega

theorem stop_le_of_mem_ofSource {source : Text} {placed : Text × Span}
    (h : placed ∈ ofSource source) : placed.2.stop ≤ Text.byteSize source := by
  have := stop_le_of_mem_placeFrom h
  rwa [Text.join_split, Nat.zero_add] at this

end Line

namespace Template

/-- A fault of a body, moved behind the mark of its directive, lies in the line. -/
theorem within_shift {line body mark : Text} {span : Span} {fault : Fault}
    (hs : span.stop = span.start + Text.byteSize line) (hl : line = mark ++ body)
    (hm : mark.length = Text.byteSize mark) (h : fault.span.Within (Text.byteSize body)) :
    (fault.shift (span.start + mark.length)).span.Within span.stop := by
  obtain ⟨start, stop⟩ := h
  have size := congrArg Text.byteSize hl
  rw [Text.byteSize_append] at size
  refine ⟨?_, ?_⟩ <;> simp only [Fault.shift, Span.shift] <;> omega

/-- The fault of a line is that of the body behind its mark. -/
theorem lineFault?_eq_some {line : Text} {span : Span} {fault : Fault}
    (h : lineFault? line span = some fault) :
    (∃ body inner, line = Line.offsetMark ++ body ∧ Line.Says line (.offset body) ∧
        Offset.read body = .error inner ∧
        fault = inner.shift (span.start + Line.offsetMark.length)) ∨
      ∃ body inner, line = Line.baseMark ++ body ∧ Line.Says line (.base body) ∧
        Base.read body = .error inner ∧
        fault = inner.shift (span.start + Line.baseMark.length) := by
  have said := Line.says_read line
  unfold lineFault? at h
  cases hr : Line.read line with
  | offset body =>
    simp only [hr] at h said
    cases hb : Offset.read body with
    | ok offset => simp [hb] at h
    | error inner =>
      simp only [hb, Option.some.injEq] at h
      cases said with
      | offset hs he hl => exact .inl ⟨body, inner, hl, .offset hs he hl, hb, h.symm⟩
  | base body =>
    simp only [hr] at h said
    cases hb : Base.read body with
    | ok base => simp [hb] at h
    | error inner =>
      simp only [hb, Option.some.injEq] at h
      cases said with
      | base hs he hl => exact .inr ⟨body, inner, hl, .base hs he hl, hb, h.symm⟩
  | comment | definition | layer | ignored =>
    rw [hr] at h
    contradiction

/-- The fault of a line lies in the line, and is the wrong way round if the line trails off. -/
theorem span_of_lineFault? {line : Text} {span : Span} {fault : Fault}
    (hs : span.stop = span.start + Text.byteSize line) (h : lineFault? line span = some fault) :
    fault.span.Within span.stop ∧
      (fault.span.stop < fault.span.start ↔ (Line.read line).TrailsOff) := by
  rcases lineFault?_eq_some h with ⟨body, inner, hl, said, hb, rfl⟩ | ⟨body, inner, hl, said, hb, rfl⟩
  · obtain ⟨within, trails⟩ := Offset.span_of_read hb
    refine ⟨within_shift hs hl rfl within, ?_⟩
    rw [said.read_eq, Line.TrailsOff, ← trails]
    exact Nat.add_lt_add_iff_right
  · obtain ⟨-, rfl⟩ := Base.fault_of_read hb
    refine ⟨within_shift hs hl rfl ⟨Nat.zero_le _, Nat.le_refl _⟩, ?_⟩
    simp [said.read_eq, Line.TrailsOff, Fault.shift, Span.shift]

theorem lineFault?_of_trailsOff {line : Text} (h : (Line.read line).TrailsOff) (span : Span) :
    ∃ fault, lineFault? line span = some fault := by
  unfold lineFault?
  cases hr : Line.read line with
  | offset body =>
    rw [hr] at h
    rcases Offset.read_cases body with ⟨triple, -⟩ | ⟨-, fault, hb, -⟩
    · exact absurd triple h.not_isTriple
    · exact ⟨_, by simp only [hb]; rfl⟩
  | base | comment | definition | layer | ignored =>
    rw [hr] at h
    exact h.elim

/-- A fault of the shape is that there are no layers, or it blames a layer. -/
theorem mem_shapeFaults {size : Nat} {layers : List (Layer × Span)} {fault : Fault}
    (h : fault ∈ shapeFaults size layers) :
    (layers = [] ∧ fault = ⟨⟨0, size⟩, .noLayers⟩) ∨
      ∃ first index layer, (layers.map Prod.fst).head? = some first ∧
        layers[index]? = some (layer, fault.span) ∧
          Blames first.length (first.headD []).length index layer fault.span fault := by
  cases layers with
  | nil => exact .inl ⟨rfl, List.mem_singleton.1 h⟩
  | cons head rest =>
    obtain ⟨first, span⟩ := head
    obtain ⟨⟨⟨layer, span'⟩, index⟩, hm, hf⟩ := List.mem_filterMap.1 h
    refine .inr ⟨first, index, layer, rfl, ?_⟩
    rcases layerFault?_cases first.length (first.headD []).length index layer span' with
      ⟨-, none⟩ | ⟨-, found, some, blames⟩
    · cases none.symm.trans hf
    · obtain rfl := Option.some.inj (some.symm.trans hf)
      have spans : found.span = span' := by cases blames <;> rfl
      rw [spans]
      exact ⟨List.mk_mem_zipIdx_iff_getElem?.1 hm, blames⟩

/-- Some offset of the text trails off. -/
def TrailsOff (source : Text) : Prop :=
  ∃ body, .offset body ∈ said source ∧ Offset.TrailsOff body

theorem trailsOff_iff {source : Text} :
    TrailsOff source ↔ ∃ placed ∈ Line.ofSource source, (Line.read placed.1).TrailsOff := by
  constructor
  · rintro ⟨body, hm, trails⟩
    obtain ⟨placed, hp, hr⟩ := List.mem_map.1 hm
    exact ⟨placed, hp, by rwa [hr]⟩
  · rintro ⟨placed, hp, trails⟩
    cases hr : Line.read placed.1 with
    | offset body =>
      rw [hr] at trails
      exact ⟨body, hr ▸ List.mem_map_of_mem (f := fun p => Line.read p.1) hp, trails⟩
    | base | comment | definition | layer | ignored =>
      rw [hr] at trails
      exact trails.elim

theorem mem_faults_cases {source : Text} {fault : Fault} (h : fault ∈ faults source) :
    (∃ placed ∈ Line.ofSource source, lineFault? placed.1 placed.2 = some fault) ∨
      fault.span = ⟨0, Text.byteSize source⟩ ∨
        ∃ placed ∈ Line.ofSource source, fault.span = placed.2 := by
  rcases List.mem_append.1 h with h | h
  · obtain ⟨placed, hp, hf⟩ := List.mem_filterMap.1 h
    exact .inl ⟨placed, hp, hf⟩
  · rcases mem_shapeFaults h with ⟨-, rfl⟩ | ⟨_, _, layer, -, nth, -⟩
    · exact .inr (.inl rfl)
    · rw [placedLayers_eq] at nth
      obtain ⟨placed, hp, he⟩ := List.mem_map.1 (List.mem_of_getElem? nth)
      exact .inr (.inr ⟨placed, (List.mem_filter.1 hp).1, (congrArg Prod.snd he).symm⟩)

/-- Every fault lies in its text. -/
theorem within_of_mem_faults {source : Text} {fault : Fault} (h : fault ∈ faults source) :
    fault.span.Within (Text.byteSize source) := by
  rcases mem_faults_cases h with ⟨placed, hp, hf⟩ | whole | ⟨placed, hp, hs⟩
  · have last := Line.stop_le_of_mem_ofSource hp
    obtain ⟨start, stop⟩ := (span_of_lineFault? (Line.stop_of_mem_placeFrom hp) hf).1
    exact ⟨Nat.le_trans start last, Nat.le_trans stop last⟩
  · rw [whole]
    exact ⟨Nat.zero_le _, Nat.le_refl _⟩
  · have last := Line.stop_le_of_mem_ofSource hp
    have := Line.stop_of_mem_placeFrom hp
    rw [hs]
    exact ⟨by omega, last⟩

/-- Spans end where they start or after, but for those of offsets that trail off. -/
theorem ordered_iff (source : Text) :
    (∀ fault ∈ faults source, fault.span.start ≤ fault.span.stop) ↔ ¬ TrailsOff source := by
  rw [trailsOff_iff]
  constructor
  · rintro ordered ⟨placed, hp, trails⟩
    obtain ⟨fault, hf⟩ := lineFault?_of_trailsOff trails placed.2
    have hm : fault ∈ faults source :=
      List.mem_append_left _ (List.mem_filterMap.2 ⟨placed, hp, hf⟩)
    have reversed := (span_of_lineFault? (Line.stop_of_mem_placeFrom hp) hf).2.2 trails
    exact Nat.not_lt.2 (ordered fault hm) reversed
  · intro sound fault hm
    rw [← Nat.not_lt]
    intro reversed
    rcases mem_faults_cases hm with ⟨placed, hp, hf⟩ | whole | ⟨placed, hp, hs⟩
    · exact sound ⟨placed, hp,
        (span_of_lineFault? (Line.stop_of_mem_placeFrom hp) hf).2.1 reversed⟩
    · rw [whole] at reversed
      exact Nat.not_lt_zero _ reversed
    · have := Line.stop_of_mem_placeFrom hp
      rw [hs] at reversed
      omega

end Template
end VoxelTemplate
