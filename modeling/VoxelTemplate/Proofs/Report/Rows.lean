import VoxelTemplate.Report

/-! Rows of a text in which only line feeds end a row: which row a place is in is the number of line
feeds before it. -/
namespace VoxelTemplate.Report

/-- Of the characters that end a row, only line feeds and carriage returns right before one. -/
def PlainBreaks : Text → Prop
  | [] => True
  | c :: text =>
    (isBreak c = true → c = '\n' ∨ (c = '\r' ∧ text.head? = some '\n')) ∧ PlainBreaks text

def PlainBreaks.decide : (text : Text) → Decidable (PlainBreaks text)
  | [] => .isTrue trivial
  | _ :: text => @instDecidableAnd _ _ _ (PlainBreaks.decide text)

instance : DecidablePred PlainBreaks := PlainBreaks.decide

/-- The first row of a text, with the rest behind it. -/
structure FirstRow (text row rest : Text) : Prop where
  whole : text = row ++ rest
  rows_eq : rows text = row :: rows rest
  no_feed : '\n' ∉ row.dropLast
  feed : rest ≠ [] → row.getLast? = some '\n'
  started : row ≠ []
  plain : PlainBreaks rest

theorem exists_firstRow {text : Text} (ne : text ≠ []) (plain : PlainBreaks text) :
    ∃ row rest, FirstRow text row rest := by
  induction text using rows.induct with
  | case1 => contradiction
  | case2 text =>
    exact ⟨['\r', '\n'], text, rfl, rows.eq_2 text, by decide, fun _ => rfl, by simp, plain.2.2⟩
  | case3 c text other ends =>
    have rows_eq : rows (c :: text) = [c] :: rows text := by
      rw [rows.eq_3 c text other, if_pos ends]
    obtain rfl | ⟨rfl, next⟩ := plain.1 ends
    · exact ⟨['\n'], text, rfl, rows_eq, by simp, fun _ => rfl, by simp, plain.2⟩
    · obtain ⟨rest, rfl⟩ := List.head?_eq_some_iff.1 next
      exact (other rest rfl rfl).elim
  | case4 c text other inner ih =>
    have rows_eq : rows (c :: text) = Text.consFirst c (rows text) := by
      rw [rows.eq_3 c text other, if_neg inner]
    by_cases last : text = []
    · subst last
      exact ⟨[c], [], rfl, rows_eq, by simp, by simp, by simp, trivial⟩
    · obtain ⟨row, rest, first⟩ := ih last plain.2
      obtain ⟨d, more, rfl⟩ := List.exists_cons_of_ne_nil first.started
      have plain_c : '\n' ≠ c := by
        rintro rfl
        exact inner rfl
      refine ⟨c :: d :: more, rest, ?_, ?_, ?_, ?_, by simp, first.plain⟩
      · rw [first.whole]
        rfl
      · rw [rows_eq, first.rows_eq]
        rfl
      · rw [List.dropLast_cons_cons, List.mem_cons, not_or]
        exact ⟨plain_c, first.no_feed⟩
      · rw [List.getLast?_cons_cons]
        exact first.feed

theorem mem_take_of_mem_dropLast {c : Char} {text : Text} {count : Nat}
    (h : c ∈ text.dropLast.take count) : c ∈ text.take count := by
  rw [List.dropLast_eq_take, List.take_take] at h
  exact (List.take_prefix_take_left (Nat.min_le_left ..)).subset h

namespace FirstRow

variable {text row rest : Text}

/-- The line feed at the end of the first row is not before any place in this row. -/
theorem count_take_of_lt (first : FirstRow text row rest) {count : Nat}
    (inside : rest = [] ∨ count < row.length) : (text.dropLast.take count).count '\n' = 0 := by
  refine List.count_eq_zero.2 fun feed => first.no_feed ?_
  rcases inside with rfl | short
  · have whole := first.whole
    rw [List.append_nil] at whole
    subst whole
    exact List.mem_of_mem_take feed
  · have front : text.take count = row.dropLast.take count := by
      rw [first.whole, List.take_append_of_le_length (Nat.le_of_lt short), List.dropLast_eq_take,
        List.take_take, Nat.min_eq_left (Nat.le_sub_one_of_lt short)]
    exact List.mem_of_mem_take (front ▸ mem_take_of_mem_dropLast feed)

theorem count_take_of_le (first : FirstRow text row rest) (more : rest ≠ []) {count : Nat}
    (behind : row.length ≤ count) : (text.dropLast.take count).count '\n' =
      (rest.dropLast.take (count - row.length)).count '\n' + 1 := by
  obtain ⟨front, row_eq⟩ := List.getLast?_eq_some_iff.1 (first.feed more)
  have no_feed := first.no_feed
  rw [row_eq, List.dropLast_concat] at no_feed
  have one : row.count '\n' = 1 := by
    rw [row_eq, List.count_append, List.count_eq_zero.2 no_feed]
    rfl
  rw [first.whole, List.dropLast_append_of_ne_nil more, List.take_append,
    List.take_of_length_le behind, List.count_append, one, Nat.add_comm]

end FirstRow

theorem start_le_of_mem_placeRows {number start : Nat} {texts : List Text} {row : Row}
    (h : row ∈ placeRows number start texts) : start ≤ row.start := by
  induction texts generalizing number start with
  | nil => contradiction
  | cons text rest ih =>
    rcases List.mem_cons.1 h with rfl | h
    · exact Nat.le_refl start
    · exact Nat.le_of_add_right_le (ih h)

/-- The number of the row of a place: one more than the line feeds before it, where a line feed at
the end of the text begins no row. -/
def rowNumber (source : Text) (position : Nat) : Nat :=
  (source.dropLast.take position).count '\n' + 1

theorem exists_last_row {text : Text} (ne : text ≠ []) (plain : PlainBreaks text) (number : Nat)
    {start position : Nat} (reached : start ≤ position) :
    ∃ row, ((placeRows number start (rows text)).filter fun row => row.start ≤ position).getLast? =
        some row ∧ row.number = number + (text.dropLast.take (position - start)).count '\n' := by
  -- the rows of the text are the first one and those of the rest
  induction hr : rows text generalizing text number start with
  | nil =>
    obtain ⟨row, rest, first⟩ := exists_firstRow ne plain
    cases hr.symm.trans first.rows_eq
  | cons row others ih =>
    obtain ⟨row', rest, first⟩ := exists_firstRow ne plain
    obtain ⟨rfl, rfl⟩ := List.cons.inj (first.rows_eq.symm.trans hr)
    rw [placeRows, List.filter_cons_of_pos (by simpa using reached), List.getLast?_cons]
    by_cases next : rest ≠ [] ∧ start + row'.length ≤ position
    · obtain ⟨more, behind⟩ := next
      obtain ⟨row, found, row_number⟩ := ih more first.plain (number + 1) behind rfl
      refine ⟨row, by rw [found, Option.getD_some], ?_⟩
      rw [row_number, first.count_take_of_le more (Nat.le_sub_of_add_le' behind), Nat.sub_sub]
      omega
    · have inside : rest = [] ∨ position - start < row'.length := by
        by_cases more : rest = []
        · exact .inl more
        · have short : ¬ start + row'.length ≤ position := fun behind => next ⟨more, behind⟩
          exact .inr (by omega)
      have none : (placeRows (number + 1) (start + row'.length) (rows rest)).filter
          (fun row => row.start ≤ position) = [] := by
        rw [List.filter_eq_nil_iff]
        intro row later
        have := start_le_of_mem_placeRows later
        rcases inside with rfl | short
        · contradiction
        · rw [decide_eq_true_eq]
          omega
      refine ⟨⟨number, start, row'⟩, by rw [none]; rfl, ?_⟩
      rw [first.count_take_of_lt inside, Nat.add_zero]

theorem exists_rowAt? {source : Text} (ne : source ≠ []) (plain : PlainBreaks source)
    {position : Nat} (inside : position ≤ source.length) :
    ∃ row, rowAt? source position = some row ∧ row.number = rowNumber source position := by
  obtain ⟨row, found, number⟩ := exists_last_row ne plain 1 (Nat.zero_le position)
  refine ⟨row, ?_, ?_⟩
  · rw [rowAt?, if_pos inside, found]
  · rw [number, Nat.sub_zero, rowNumber, Nat.add_comm]

theorem rowAt?_of_lt {source : Text} {position : Nat} (outside : source.length < position) :
    rowAt? source position = none := if_neg (Nat.not_le.2 outside)

end VoxelTemplate.Report
