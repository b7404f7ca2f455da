import VoxelTemplate.Proofs.Template.Spans
import VoxelTemplate.Proofs.Text.Slices

/-! What stands in a text at the bytes that a fault spans: the lexeme, body or line to blame, cut
out of the whole text between two of its characters. Faults of directives start in their lines. -/
namespace VoxelTemplate

namespace Line

/-- A line of a text, less the carriage return at its end, and all that stands before the line. -/
structure Stands (source before line : Text) : Prop where
  begins : before = [] ∨ before.getLast? = some '\n'
  ends : ∃ raw after, source = before ++ (raw ++ after) ∧ '\n' ∉ raw ∧
    (after = [] ∨ after.head? = some '\n') ∧ line = dropReturn raw

theorem exists_stands_of_mem_placeFrom (before : Text) {lines : List Text} {line : Text}
    {span : Span} (begins : before = [] ∨ before.getLast? = some '\n')
    (no_feed : ∀ raw ∈ lines, '\n' ∉ raw)
    (h : (line, span) ∈ placeFrom (Text.byteSize before) lines) :
    ∃ lead, Stands (before ++ Text.join ['\n'] lines) lead line ∧
      span.start = Text.byteSize lead := by
  induction lines generalizing before with
  | nil => contradiction
  | cons raw rest ih =>
    obtain ⟨here, others⟩ := List.forall_mem_cons.1 no_feed
    rcases List.mem_cons.1 h with h | h
    · obtain ⟨rfl, rfl⟩ := Prod.mk.inj h
      refine ⟨before, ⟨begins, ?_⟩, rfl⟩
      cases rest with
      | nil => exact ⟨raw, [], by simp [Text.join], here, .inl rfl, rfl⟩
      | cons next rest =>
        exact ⟨raw, '\n' :: Text.join ['\n'] (next :: rest), by rw [Text.join_cons_cons]; rfl, here,
          .inr rfl, rfl⟩
    · cases rest with
      | nil => contradiction
      | cons next rest =>
        have feed : Text.byteSize ['\n'] = 1 := rfl
        have start : Text.byteSize before + Text.byteSize raw + 1 =
            Text.byteSize (before ++ (raw ++ ['\n'])) := by
          rw [Text.byteSize_append, Text.byteSize_append, feed, Nat.add_assoc]
        rw [start] at h
        have stands := ih (before ++ (raw ++ ['\n'])) (.inr (by simp)) others h
        rwa [List.append_assoc, List.append_assoc, ← Text.join_cons_cons] at stands

theorem exists_stands_of_mem_ofSource {source line : Text} {span : Span}
    (h : (line, span) ∈ ofSource source) :
    ∃ before, Stands source before line ∧ span.start = Text.byteSize before := by
  have stands := exists_stands_of_mem_placeFrom [] (.inl rfl)
    (fun _ => Text.not_mem_of_mem_split) h
  rwa [List.nil_append, Text.join_split] at stands

namespace Stands

variable {source before line : Text}

theorem no_feed (h : Stands source before line) : '\n' ∉ line := by
  obtain ⟨raw, after, -, none, -, rfl⟩ := h.ends
  exact fun feed => none ((dropReturn_front raw).subset feed)

theorem exists_eq_append (h : Stands source before line) :
    ∃ after, source = before ++ (line ++ after) := by
  obtain ⟨raw, after, whole, -, -, rfl⟩ := h.ends
  obtain ⟨ending, split⟩ := dropReturn_front raw
  exact ⟨ending ++ after, by rw [whole, ← List.append_assoc (dropReturn raw), split]⟩

/-- A part of a line is cut out of the text by its place in the line. -/
theorem slice?_eq (h : Stands source before line) (lead rest : Text) {piece : Text}
    (parts : line = lead ++ (piece ++ rest)) {span : Span}
    (place : span = ⟨Text.byteSize (before ++ lead),
      Text.byteSize (before ++ lead) + Text.byteSize piece⟩) :
    source.slice? span = some piece := by
  obtain ⟨after, whole⟩ := h.exists_eq_append
  refine Text.slice?_eq_some_iff.2 ⟨before ++ lead, rest ++ after, ?_, place⟩
  simp only [whole, parts, List.append_assoc]

theorem count_feed_append (h : Stands source before line) {lead : Text} (part : lead <+: line) :
    (before ++ lead).count '\n' = before.count '\n' := by
  have none : lead.count '\n' = 0 := List.count_eq_zero.2 fun feed => h.no_feed (part.subset feed)
  rw [List.count_append, none, Nat.add_zero]

end Stands

end Line

/-- The fault starts in a directive without a reading, behind the first part of its line. -/
structure Fault.StartsIn (source before line lead : Text) (fault : Fault) : Prop where
  stands : Line.Stands source before line
  bad : Line.IsBad line
  part : lead <+: line
  started : lead ≠ []
  start : fault.span.start = Text.byteSize (before ++ lead)

/-- The fault of an offset spans the token that offends, or it starts where the body ends. -/
theorem Offset.place_of_read {body : Text} {fault : Fault} (h : read body = .error fault) :
    (∃ lead token rest found span cause, body = lead ++ (token ++ rest) ∧
        span = ⟨Text.byteSize lead, Text.byteSize lead + Text.byteSize token⟩ ∧
        Offends 3 (Lexeme.scan body) (found, span) cause ∧
        Lexeme.scan token = [(found, ⟨0, Text.byteSize token⟩)] ∧ fault = ⟨span, cause⟩) ∨
      (fault.span.start = Text.byteSize body ∧ fault.cause = .unexpectedEnd) := by
  obtain ⟨-, rfl⟩ := fault_of_read h
  rcases fault_cases (Text.byteSize body) (Text.byteSize body) 3 (Lexeme.scan body) with
    ⟨-, ⟨found, span⟩, cause, offends, hf⟩ | ⟨-, hf⟩
  · obtain ⟨lead, token, rest, parts, place, alone⟩ := Lexeme.exists_token offends.mem
    rw [Nat.zero_add] at place
    exact .inl ⟨lead, token, rest, found, span, cause, parts, place, offends, alone, hf⟩
  · rw [hf]
    exact .inr ⟨rfl, rfl⟩

namespace Template

theorem start_of_lineFault? {line : Text} {span : Span} {fault : Fault}
    (h : lineFault? line span = some fault) :
    ∃ lead, lead <+: line ∧ lead ≠ [] ∧ fault.span.start = span.start + Text.byteSize lead := by
  have offset_mark : Line.offsetMark.length = Text.byteSize Line.offsetMark := rfl
  have base_mark : Line.baseMark.length = Text.byteSize Line.baseMark := rfl
  rcases lineFault?_eq_some h with ⟨body, inner, rfl, -, hb, rfl⟩ | ⟨body, inner, rfl, -, hb, rfl⟩
  · obtain ⟨lead, part, start⟩ : ∃ lead, lead <+: body ∧
        inner.span.start = Text.byteSize lead := by
      rcases Offset.place_of_read hb with
        ⟨lead, token, rest, _, _, _, parts, place, -, -, rfl⟩ | ⟨start, -⟩
      · exact ⟨lead, ⟨token ++ rest, parts.symm⟩, by rw [place]⟩
      · exact ⟨body, List.prefix_refl body, start⟩
    refine ⟨Line.offsetMark ++ lead, (List.prefix_append_right_inj _).2 part,
      List.append_ne_nil_of_left_ne_nil (by decide) lead, ?_⟩
    simp only [Fault.shift, Span.shift, start, offset_mark, Text.byteSize_append]
    omega
  · obtain ⟨-, rfl⟩ := Base.fault_of_read hb
    refine ⟨Line.baseMark, List.prefix_append _ _, by decide, ?_⟩
    simp only [Fault.shift, Span.shift, base_mark, Nat.zero_add]

theorem exists_startsIn {source : Text} {fault : Fault} (h : fault ∈ faults source)
    (directive : fault.isDirective = true) :
    ∃ before line lead, fault.StartsIn source before line lead := by
  rcases List.mem_append.1 h with h | h
  · obtain ⟨⟨line, span⟩, placed, hl⟩ := List.mem_filterMap.1 h
    obtain ⟨before, stands, first⟩ := Line.exists_stands_of_mem_ofSource placed
    obtain ⟨lead, part, started, start⟩ := start_of_lineFault? hl
    rcases Line.lineFault?_cases (Line.stop_of_mem_placeFrom placed) with ⟨-, none⟩ | ⟨bad, -⟩
    · cases none.symm.trans hl
    · exact ⟨before, line, lead, stands, bad, part, started, by
        rw [start, first, Text.byteSize_append]⟩
  · rcases mem_shapeFaults h with ⟨-, rfl⟩ | ⟨_, _, _, -, -, blames⟩
    · contradiction
    · generalize fault.span = span at blames
      cases blames <;> contradiction

/-- What a fault of a text says of it, and the part of the text that this is about. -/
inductive Points (source : Text) : Fault → Text → Prop where
  /-- The first lexeme of an offset that may not stand where it does. -/
  | lexeme {before body lead token rest : Text} {found : Lexeme} {span : Span}
    {cause : Fault.Cause} (stands : Line.Stands source before (Line.offsetMark ++ body))
    (said : Line.Says (Line.offsetMark ++ body) (.offset body))
    (offends : Offset.Offends 3 (Lexeme.scan body) (found, span) cause)
    (parts : body = lead ++ (token ++ rest))
    (place : span = ⟨Text.byteSize lead, Text.byteSize lead + Text.byteSize token⟩)
    (alone : Lexeme.scan token = [(found, ⟨0, Text.byteSize token⟩)]) :
    Points source ⟨span.shift (Text.byteSize (before ++ Line.offsetMark)), cause⟩ token
  /-- The whole body of a base, which has no word. -/
  | body {before body : Text} {span : Span}
    (stands : Line.Stands source before (Line.baseMark ++ body))
    (said : Line.Says (Line.baseMark ++ body) (.base body))
    (silent : ∀ c ∈ body, Text.isBlank c = true)
    (start : span.start = Text.byteSize (before ++ Line.baseMark)) :
    Points source ⟨span, .noBlock⟩ body
  /-- The line of a layer that is not as the first layer and its first row would have it. -/
  | layer {before line : Text} {bad : List (Text × Span)} {layers : List (Layer × Span)}
    {first : Layer} {index : Nat} {fault : Fault} (stands : Line.Stands source before line)
    (said : Line.Says line (.layer (Text.trim line))) (outline : Outlines source bad layers)
    (first_eq : (layers.map Prod.fst).head? = some first)
    (nth : layers[index]? = some (readLayer (Text.trim line), fault.span))
    (blames : Blames first.length (first.headD []).length index (readLayer (Text.trim line))
      fault.span fault)
    (start : fault.span.start = Text.byteSize before) : Points source fault line
  /-- The whole text, which has no layers. -/
  | source {bad : List (Text × Span)} {span : Span} (none : Outlines source bad []) :
    Points source ⟨span, .noLayers⟩ source

section Points

variable {source before line : Text} {span : Span} {fault : Fault}

theorem points_of_lineFault? (stands : Line.Stands source before line)
    (start : span.start = Text.byteSize before) (h : lineFault? line span = some fault)
    (other : fault.cause ≠ .unexpectedEnd) :
    ∃ piece, source.slice? fault.span = some piece ∧ Points source fault piece := by
  have offset_mark : Line.offsetMark.length = Text.byteSize Line.offsetMark := rfl
  have base_mark : Line.baseMark.length = Text.byteSize Line.baseMark := rfl
  rcases lineFault?_eq_some h with ⟨body, inner, rfl, said, hb, rfl⟩ |
    ⟨body, inner, rfl, said, hb, rfl⟩
  · rcases Offset.place_of_read hb with
      ⟨lead, token, rest, found, inner, cause, parts, place, offends, alone, rfl⟩ | ⟨-, ends⟩
    · rw [offset_mark, start, ← Text.byteSize_append]
      refine ⟨token, ?_, .lexeme stands said offends parts place alone⟩
      refine stands.slice?_eq (Line.offsetMark ++ lead) rest
        (by rw [parts, List.append_assoc]) ?_
      simp only [Fault.shift, Span.shift, place, Text.byteSize_append, Span.mk.injEq]
      omega
    · exact absurd ends other
  · obtain ⟨silent, rfl⟩ := Base.fault_of_read hb
    refine ⟨body, ?_, .body stands said silent ?_⟩
    · refine stands.slice?_eq Line.baseMark [] (by rw [List.append_nil]) ?_
      simp only [Fault.shift, Span.shift, start, base_mark, Text.byteSize_append, Span.mk.injEq]
      omega
    · simp only [Span.shift, start, base_mark, Text.byteSize_append, Nat.zero_add]

theorem points_of_mem_shapeFaults
    (h : fault ∈ shapeFaults (Text.byteSize source) (placedLayers (Line.ofSource source))) :
    ∃ piece, source.slice? fault.span = some piece ∧ Points source fault piece := by
  have outline := outlines_ofSource source
  rcases mem_shapeFaults h with ⟨none, rfl⟩ | ⟨first, index, layer, first_eq, nth, blames⟩
  · rw [none] at outline
    refine ⟨source, Text.slice?_eq_some_iff.2 ⟨[], [], ?_, ?_⟩, .source outline⟩
    · rw [List.nil_append, List.append_nil]
    · rw [Text.byteSize_nil, Nat.zero_add]
  · have found := List.mem_of_getElem? nth
    rw [placedLayers_eq] at found
    obtain ⟨⟨line, span⟩, hp, he⟩ := List.mem_map.1 found
    obtain ⟨rfl, rfl⟩ := Prod.mk.inj he
    obtain ⟨placed, is_layer⟩ := List.mem_filter.1 hp
    have said := Line.says_iff.2 (of_decide_eq_true is_layer : Line.IsLayer line).read_eq
    obtain ⟨before, stands, start⟩ := Line.exists_stands_of_mem_ofSource placed
    have stop := Line.stop_of_mem_placeFrom placed
    refine ⟨line, ?_, .layer stands said outline first_eq nth blames start⟩
    refine stands.slice?_eq [] [] (by simp) ?_
    rw [List.append_nil, ← start, ← stop]

/-- At the bytes of a fault stands what the fault is about, from the first character to the last. -/
theorem slice_points {faults : List Fault} (refused : parse source = .error faults) :
    ∀ fault ∈ faults, fault.cause ≠ .unexpectedEnd →
      ∃ piece, source.slice? fault.span = some piece ∧ Points source fault piece := by
  intro fault hf other
  rw [eq_faults_of_parse refused] at hf
  rcases List.mem_append.1 hf with hf | hf
  · obtain ⟨⟨line, span⟩, placed, hl⟩ := List.mem_filterMap.1 hf
    obtain ⟨before, stands, start⟩ := Line.exists_stands_of_mem_ofSource placed
    exact points_of_lineFault? stands start hl other
  · exact points_of_mem_shapeFaults hf

/-- An offset, a base and a layer at fault, behind characters of more than one byte and lines that
end either way. -/
theorem slice_points_barn :
    let source : Text := "# é\r\n> offset 1 × 3\n> base \u3000\r\n é a\n é\r\n".toList
    let fault : Fault := ⟨⟨17, 19⟩, .unexpected (.invalid "×".toList)⟩
    let faults := [fault, ⟨⟨29, 32⟩, .noBlock⟩, ⟨⟨40, 43⟩, .cellCount 1 2 1 2⟩]
    parse source = .error faults ∧ fault ∈ faults ∧ fault.cause ≠ .unexpectedEnd ∧
      faults.map (fun fault => source.slice? fault.span) =
        [some "×".toList, some "\u3000".toList, some " é".toList] ∧
      Points source fault "×".toList := by
  intro source fault faults
  have refused : parse source = .error faults := by decide +kernel
  have first : fault ∈ faults := List.mem_cons_self
  have other : fault.cause ≠ .unexpectedEnd := by decide
  have slice : source.slice? fault.span = some "×".toList := by decide +kernel
  obtain ⟨piece, found, points⟩ := slice_points refused fault first other
  obtain rfl := Option.some.inj (slice.symm.trans found)
  exact ⟨refused, first, other, by decide +kernel, points⟩

end Points

end Template
end VoxelTemplate
