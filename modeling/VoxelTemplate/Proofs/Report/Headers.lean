import VoxelTemplate.Proofs.Report.Rows
import VoxelTemplate.Proofs.Template.Places
import VoxelTemplate.Proofs.Template.Size
import VoxelTemplate.Proofs.Text.Numeral

/-! The place that a report names. Faults are placed by bytes and drawn by characters, so a report
names the row of its fault as long as both counts pass the same line feeds. -/
namespace VoxelTemplate.Report

/-- The line of a report that names the place of its fault. -/
def header (pad filename : Text) (row column : Nat) : Text :=
  pad ++ "╭─[".toList ++ filename ++ ':' :: Numeral.ofNat row ++ ':' :: Numeral.ofNat column ++
    [']']

/-- The report begins with the message, and its header is the second line. -/
def Names (report message filename : Text) (row : Nat) : Prop :=
  ∃ pad column rest, (∀ c ∈ pad, c = ' ') ∧ report =
    "Error: ".toList ++ message ++ '\n' :: (header pad filename row column ++ '\n' :: rest)

theorem Names.row_unique {report message filename : Text} {a b : Nat}
    (ha : Names report message filename a) (hb : Names report message filename b) : a = b := by
  obtain ⟨pad, column, rest, blank, rfl⟩ := ha
  obtain ⟨pad', column', rest', blank', whole⟩ := hb
  have corner {pad : Text} (blank : ∀ c ∈ pad, c = ' ') : '╭' ∉ pad := fun h =>
    absurd (blank '╭' h) (by decide)
  have colon (row : Nat) : ':' ∉ Numeral.ofNat row := fun h =>
    absurd (Numeral.isDigit_of_mem_ofNat h) (by decide)
  have behind := (List.cons.inj (List.append_cancel_left whole)).2
  have marked (pad : Text) (row column : Nat) (rest : Text) :
      header pad filename row column ++ '\n' :: rest = pad ++ '╭' :: ("─[".toList ++ (filename ++
        ':' :: (Numeral.ofNat row ++ ':' :: (Numeral.ofNat column ++ ']' :: '\n' :: rest)))) := by
    simp [header]
  have sides := congrArg (Text.splitFirst? '╭') behind
  rw [marked, marked, Text.splitFirst?_append (corner blank),
    Text.splitFirst?_append (corner blank')] at sides
  have place := List.append_cancel_left (Prod.mk.inj (Option.some.inj sides)).2
  have place := List.append_cancel_left place
  have rows := congrArg (Text.splitFirst? ':') (List.cons.inj place).2
  rw [Text.splitFirst?_append (colon a), Text.splitFirst?_append (colon b)] at rows
  exact Numeral.ofNat_injective (Prod.mk.inj (Option.some.inj rows)).1

/-- A span, in characters, that has its ends in the text. The end of the text may be in it. -/
structure Shown (source : Text) (span : Span) : Prop where
  start_le : span.start ≤ source.length
  stop_le : span.stop ≤ source.length + 1

section Frame

variable {source filename : Text} {fault : Fault}

theorem frame_of_rows {first last : Row} (hf : rowAt? source fault.span.start = some first)
    (hl : (if fault.span.stop ≤ fault.span.start then some first
      else rowAt? source (fault.span.stop - 1)) = some last) :
    ∃ pad column more, (∀ c ∈ pad, c = ' ') ∧
      frame source filename fault = header pad filename first.number column :: more := by
  have head : (frame source filename fault).head? =
      some (header (List.replicate ((Numeral.ofNat last.number).length + 2) ' ') filename
        first.number (fault.span.start - first.start + 1)) := by
    unfold frame
    simp only [hf, hl]
    rfl
  obtain ⟨more, framed⟩ := List.head?_eq_some_iff.1 head
  exact ⟨_, _, more, fun c hc => List.eq_of_mem_replicate hc, framed⟩

/-- The frame of a span that can be shown has a header, and the others have no frame. -/
theorem frame_cases (ne : source ≠ []) (plain : PlainBreaks source)
    (ordered : fault.span.start ≤ fault.span.stop) (filename : Text) :
    (Shown source fault.span ∧ ∃ pad column more, (∀ c ∈ pad, c = ' ') ∧
        frame source filename fault =
          header pad filename (rowNumber source fault.span.start) column :: more) ∨
      (¬ Shown source fault.span ∧ frame source filename fault = []) := by
  by_cases start : fault.span.start ≤ source.length
  · obtain ⟨first, hf, number⟩ := exists_rowAt? ne plain start
    by_cases stop : fault.span.stop ≤ source.length + 1
    · refine .inl ⟨⟨start, stop⟩, ?_⟩
      rw [← number]
      by_cases empty : fault.span.stop ≤ fault.span.start
      · exact frame_of_rows hf (if_pos empty)
      · obtain ⟨last, hl, -⟩ := exists_rowAt? ne plain (Nat.sub_le_of_le_add stop)
        exact frame_of_rows hf ((if_neg empty).trans hl)
    · refine .inr ⟨fun shown => stop shown.stop_le, ?_⟩
      have more : ¬ fault.span.stop ≤ fault.span.start := by omega
      have none : rowAt? source (fault.span.stop - 1) = none := rowAt?_of_lt (by omega)
      unfold frame
      simp only [hf, if_neg more, none]
  · refine .inr ⟨fun shown => start shown.start_le, ?_⟩
    unfold frame
    simp only [rowAt?_of_lt (Nat.not_le.1 start)]

theorem draw?_eq (ordered : fault.span.start ≤ fault.span.stop) : draw? source filename fault =
    some ("Error: ".toList ++ fault.message ++
      '\n' :: (frame source filename fault).flatMap fun line => line ++ ['\n']) := by
  have lines : (("Error: ".toList ++ fault.message) :: frame source filename fault).flatMap
      (fun line => line ++ ['\n']) = "Error: ".toList ++ fault.message ++
        '\n' :: (frame source filename fault).flatMap fun line => line ++ ['\n'] := by
    rw [List.flatMap_cons, List.append_assoc (_ ++ _), List.singleton_append]
  rw [← lines]
  exact if_neg (Nat.not_lt.2 ordered)

/-- Whether a report names a row, and which. -/
theorem exists_draw?_names_iff (ne : source ≠ []) (plain : PlainBreaks source)
    (ordered : fault.span.start ≤ fault.span.stop) (filename : Text) :
    ∃ report, draw? source filename fault = some report ∧ ∀ row,
      Names report fault.message filename row ↔
        Shown source fault.span ∧ row = rowNumber source fault.span.start := by
  refine ⟨_, draw?_eq ordered, fun row => ?_⟩
  rcases frame_cases ne plain ordered filename with
    ⟨shown, pad, column, more, blank, framed⟩ | ⟨hidden, framed⟩
  · have named : Names ("Error: ".toList ++ fault.message ++ '\n' ::
        (frame source filename fault).flatMap fun line => line ++ ['\n']) fault.message filename
        (rowNumber source fault.span.start) := by
      refine ⟨pad, column, more.flatMap fun line => line ++ ['\n'], blank, ?_⟩
      rw [framed, List.flatMap_cons, List.append_assoc (header ..), List.singleton_append]
    refine ⟨fun other => ⟨shown, other.row_unique named⟩, ?_⟩
    rintro ⟨-, rfl⟩
    exact named
  · rw [iff_false_right fun h => hidden h.1]
    rintro ⟨pad, column, rest, -, whole⟩
    have tail := (List.cons.inj (List.append_cancel_left whole)).2
    rw [framed, List.flatMap_nil] at tail
    exact absurd tail.symm (List.append_ne_nil_of_right_ne_nil _ (List.cons_ne_nil _ _))

end Frame

section SingleBytes

variable {source before line lead : Text} {fault : Fault}

theorem byteSize_of_front (single : Text.byteSize source = source.length) {front : Text}
    (part : front <+: source) : Text.byteSize front = front.length := by
  obtain ⟨rest, rfl⟩ := part
  rw [Text.byteSize_append, List.length_append] at single
  have := Text.length_le_byteSize front
  have := Text.length_le_byteSize rest
  omega

/-- A fault that has as many characters before it as bytes is drawn in its row. -/
theorem rowNumber_of_startsIn (h : fault.StartsIn source before line lead)
    (single : Text.byteSize (before ++ lead) = (before ++ lead).length) :
    rowNumber source fault.span.start = before.count '\n' + 1 := by
  obtain ⟨after, whole⟩ := h.stands.exists_eq_append
  obtain ⟨rest, rfl⟩ := h.part
  have none : ((lead ++ (rest ++ after)).dropLast.take lead.length).count '\n' = 0 := by
    refine List.count_eq_zero.2 fun feed => h.stands.no_feed ?_
    have feed := mem_take_of_mem_dropLast feed
    rw [List.take_left] at feed
    exact List.mem_append_left rest feed
  have ne : lead ++ (rest ++ after) ≠ [] := List.append_ne_nil_of_left_ne_nil h.started _
  rw [rowNumber, h.start, single, List.length_append, whole, List.append_assoc,
    List.dropLast_append_of_ne_nil ne, List.take_length_add_append, List.count_append, none,
    Nat.add_zero]

end SingleBytes

/-- The report of a bad directive names the file, and the row that has the place of the fault if it
is taken as a number of characters; there is no header if that place or the end of the fault is out
of the text. Where every character is one byte this is the row of the directive. -/
theorem names_row_iff {source : Text} {faults : List Fault}
    (refused : Template.parse source = .error faults) (plain : PlainBreaks source) {fault : Fault}
    (found : fault ∈ faults) (directive : fault.isDirective = true)
    (ordered : fault.span.start ≤ fault.span.stop) (filename : Text) :
    ∃ before line lead report, fault.StartsIn source before line lead ∧
      (before ++ lead).count '\n' = before.count '\n' ∧
      draw? source filename fault = some report ∧
      (∀ row, Names report fault.message filename row ↔
        Shown source fault.span ∧ row = rowNumber source fault.span.start) ∧
      (Text.byteSize source = source.length →
        Names report fault.message filename (before.count '\n' + 1)) := by
  have inside : fault ∈ Template.faults source := Template.eq_faults_of_parse refused ▸ found
  obtain ⟨before, line, lead, starts⟩ := Template.exists_startsIn inside directive
  obtain ⟨after, whole⟩ := starts.stands.exists_eq_append
  obtain ⟨rest, parts⟩ := starts.part
  have front : before ++ lead <+: source :=
    ⟨rest ++ after, by rw [whole, ← parts, List.append_assoc, List.append_assoc]⟩
  have ne : source ≠ [] := by
    rintro rfl
    exact starts.started (List.append_eq_nil_iff.1 (List.prefix_nil.1 front)).2
  obtain ⟨report, drawn, names⟩ := exists_draw?_names_iff ne plain ordered filename
  refine ⟨before, line, lead, report, starts, starts.stands.count_feed_append starts.part, drawn,
    names, fun single => (names _).2 ⟨?_, ?_⟩⟩
  · obtain ⟨start, stop⟩ := Template.within_of_mem_faults inside
    rw [single] at start stop
    exact ⟨start, Nat.le_succ_of_le stop⟩
  · exact (rowNumber_of_startsIn starts (byteSize_of_front single front)).symm

/-- One character of two bytes, too few to leave the row of the directive. -/
theorem names_row_iff_barn :
    let source : Text := "# é\n> offset 1 x 3\n a\n".toList
    let fault : Fault := ⟨⟨16, 17⟩, .unexpected (.word "x".toList)⟩
    let filename := "barn.tpl".toList
    Template.parse source = .error [fault] ∧ PlainBreaks source ∧ fault.isDirective = true ∧
      fault.span.start ≤ fault.span.stop ∧
      ∃ report, draw? source filename fault = some report ∧
        Names report fault.message filename 2 := by
  intro source fault filename
  have refused : Template.parse source = .error [fault] := by decide +kernel
  have plain : PlainBreaks source := by decide
  have ordered : fault.span.start ≤ fault.span.stop := by decide
  obtain ⟨before, line, lead, report, -, -, drawn, names, -⟩ :=
    names_row_iff refused plain List.mem_cons_self rfl ordered filename
  have shown : Shown source fault.span := ⟨by decide, by decide⟩
  exact ⟨refused, plain, rfl, ordered, report, drawn, (names 2).2 ⟨shown, by decide⟩⟩

/-- Two characters of two bytes in a comment: the report of a directive in row 3 names row 4. -/
theorem row_misnamed_behind_comment :
    let source : Text := "# éé\n a\n> offset x\nb=dirt\n".toList
    let fault : Fault := ⟨⟨19, 20⟩, .unexpected (.word "x".toList)⟩
    let before : Text := "# éé\n a\n".toList
    let filename := "f.tpl".toList
    Template.parse source = .error [fault] ∧ PlainBreaks source ∧ fault.isDirective = true ∧
      fault.span.start ≤ fault.span.stop ∧
      fault.StartsIn source before "> offset x".toList Line.offsetMark ∧
      before.count '\n' + 1 = 3 ∧
      ∃ report, draw? source filename fault = some report ∧
        Names report fault.message filename 4 ∧ ¬ Names report fault.message filename 3 := by
  intro source fault before filename
  have plain : PlainBreaks source := by decide
  have ordered : fault.span.start ≤ fault.span.stop := by decide
  have stands : Line.Stands source before "> offset x".toList :=
    ⟨.inr rfl, "> offset x".toList, "\nb=dirt\n".toList, by decide, by decide, .inr rfl, by decide⟩
  have starts : fault.StartsIn source before "> offset x".toList Line.offsetMark :=
    ⟨stands, by decide +kernel, ⟨['x'], by decide⟩, by decide, by decide⟩
  obtain ⟨report, drawn, names⟩ := exists_draw?_names_iff (by decide) plain ordered filename
  have shown : Shown source fault.span := ⟨by decide, by decide⟩
  refine ⟨by decide +kernel, plain, rfl, ordered, starts, by decide, report, drawn,
    (names 4).2 ⟨shown, by decide⟩, fun three => ?_⟩
  exact absurd ((names 3).1 three).2 (by decide)

end VoxelTemplate.Report
