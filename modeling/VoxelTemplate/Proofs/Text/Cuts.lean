import Mathlib.Data.List.TakeWhile
import VoxelTemplate.Proofs.Text.Pieces

/-! The pieces of a text between separators, and its core between blanks, said without the functions
that cut and trim. A text has one list of pieces and one core, those that the functions find. -/
namespace VoxelTemplate.Text

/-- The pieces of a text between separators. A piece ends where a separator stands first, and what
stands behind that is cut in the same way. -/
inductive Cut (sep : Text) : Text → List Text → Prop where
  | last {text : Text} (whole : ¬ sep <:+: text) : Cut sep text [text]
  | more {piece rest : Text} {pieces : List Text} (first : ¬ sep <:+: piece ++ sep.dropLast)
      (behind : Cut sep rest pieces) : Cut sep (piece ++ (sep ++ rest)) (piece :: pieces)

section Cut

variable {sep text : Text}

theorem append_dropLast_front (left sep rest : Text) :
    left ++ sep.dropLast <+: left ++ (sep ++ rest) := by
  have short : sep.dropLast <+: sep := List.dropLast_prefix sep
  exact (List.prefix_append_right_inj left).2 (short.trans (List.prefix_append sep rest))

/-- At the start of a text a separator ends an empty piece. -/
theorem Cut.here (hne : sep ≠ []) {pieces : List Text} (h : Cut sep text pieces) :
    Cut sep (sep ++ text) ([] :: pieces) := by
  have first : ¬ sep <:+: [] ++ sep.dropLast := by
    intro inner
    have short := inner.length_le
    have := List.length_pos_iff.2 hne
    rw [List.nil_append, List.length_dropLast] at short
    omega
  exact .more first h

/-- A character at which no separator starts goes to the first piece. -/
theorem Cut.cons {c : Char} (hc : ¬ sep <+: c :: text) {pieces : List Text}
    (h : Cut sep text pieces) : Cut sep (c :: text) (consFirst c pieces) := by
  cases h with
  | last whole => exact .last fun inner => (List.infix_cons_iff.1 inner).elim hc whole
  | @more piece rest pieces first behind =>
    have grown : ¬ sep <:+: (c :: piece) ++ sep.dropLast := by
      intro inner
      rcases List.infix_cons_iff.1 inner with start | inner
      · exact hc (start.trans (append_dropLast_front (c :: piece) sep rest))
      · exact first inner
    exact .more grown behind

/-- Where a piece ends at its first separator, no longer piece does. -/
theorem eq_nil_of_first {piece more rest rest' : Text}
    (first : ¬ sep <:+: (piece ++ more) ++ sep.dropLast)
    (h : sep ++ rest = more ++ (sep ++ rest')) : more = [] := by
  by_contra hne
  have starts : sep <+: more ++ (sep ++ rest') := h ▸ List.prefix_append sep rest
  have fits : sep.length ≤ (more ++ sep.dropLast).length := by
    have := List.length_pos_iff.2 hne
    rw [List.length_append, List.length_dropLast]
    omega
  have inner : sep <:+: more ++ sep.dropLast :=
    (List.prefix_of_prefix_length_le starts (append_dropLast_front more sep rest') fits).isInfix
  rw [List.append_assoc] at first
  exact first (inner.trans (List.suffix_append piece _).isInfix)

theorem Cut.unique {a b : List Text} (ha : Cut sep text a) (hb : Cut sep text b) : a = b := by
  induction ha generalizing b with
  | last whole =>
    cases hb with
    | last => rfl
    | more => exact absurd (List.infix_append' ..) whole
  | @more piece rest pieces first behind ih =>
    generalize ht : piece ++ (sep ++ rest) = text at hb
    cases hb with
    | last whole => exact absurd (List.infix_append' ..) (ht ▸ whole)
    | @more piece' rest' pieces' first' behind' =>
      -- Of two pieces at the same place the longer one would hold a separator.
      obtain rfl : piece' = piece := by
        rcases List.append_eq_append_iff.1 ht with ⟨more, rfl, h⟩ | ⟨more, rfl, h⟩
        · rw [eq_nil_of_first first' h, List.append_nil]
        · rw [eq_nil_of_first first h, List.append_nil]
      obtain rfl := List.append_cancel_left (List.append_cancel_left ht)
      rw [ih behind']

theorem cut_split (c : Char) (text : Text) : Cut [c] text (split c text) := by
  induction text with
  | nil => exact .last (by simp)
  | cons d text ih =>
    rw [split, splitWhere]
    split
    · next same =>
      obtain rfl : d = c := by simpa using same
      exact ih.here (List.cons_ne_nil d [])
    · next other =>
      have apart : ¬ [c] <+: d :: text := by
        rintro ⟨rest, start⟩
        obtain ⟨rfl, -⟩ := List.cons.inj start
        simp at other
      exact ih.cons apart

theorem cut_splitTripleSpace (text : Text) : Cut "   ".toList text (splitTripleSpace text) := by
  fun_induction splitTripleSpace text with
  | case1 => exact .last (by decide)
  | case2 text ih => exact ih.here (by decide)
  | case3 c text other ih =>
    have apart : ¬ "   ".toList <+: c :: text := by
      rintro ⟨rest, start⟩
      obtain ⟨rfl, rfl⟩ := List.cons.inj start
      exact other rest rfl rfl
    exact ih.cons apart

theorem cut_char_iff {c : Char} {pieces : List Text} : Cut [c] text pieces ↔ pieces = split c text :=
  ⟨fun h => h.unique (cut_split c text), fun h => h ▸ cut_split c text⟩

theorem cut_tripleSpace_iff {pieces : List Text} :
    Cut "   ".toList text pieces ↔ pieces = splitTripleSpace text :=
  ⟨fun h => h.unique (cut_splitTripleSpace text), fun h => h ▸ cut_splitTripleSpace text⟩

end Cut

/-- The text without the blanks at both ends, of a text that is not blank throughout. -/
structure Core (text core : Text) : Prop where
  parts : ∃ front back, text = front ++ (core ++ back) ∧ ∀ c ∈ front ++ back, isBlank c = true
  solid : Solid core

section Core

variable {text core : Text}

theorem exists_append_trim (text : Text) :
    ∃ front back, text = front ++ (trim text ++ back) ∧ ∀ c ∈ front ++ back, isBlank c = true := by
  refine ⟨text.takeWhile isBlank, ((trimStart text).reverse.takeWhile isBlank).reverse, ?_, ?_⟩
  · have last : trim text ++ ((trimStart text).reverse.takeWhile isBlank).reverse =
        trimStart text := by
      rw [trim, trimEnd, ← List.reverse_append, List.takeWhile_append_dropWhile,
        List.reverse_reverse]
    rw [last, trimStart, List.takeWhile_append_dropWhile]
  · intro c hc
    rcases List.mem_append.1 hc with hc | hc
    · exact List.mem_takeWhile_imp hc
    · exact List.mem_takeWhile_imp (List.mem_reverse.1 hc)

theorem Core.trim_eq (h : Core text core) : trim text = core := by
  obtain ⟨⟨front, back, rfl, blank⟩, solid⟩ := h
  obtain ⟨blank_front, blank_back⟩ := List.forall_mem_append.1 blank
  obtain ⟨c, rest, hf, hc⟩ := solid.first
  obtain ⟨most, d, hl, hd⟩ := solid.last
  have start : trimStart (front ++ (core ++ back)) = core ++ back := by
    rw [trimStart, List.dropWhile_append_of_pos blank_front, hf]
    simp [hc]
  rw [trim, start, trimEnd, List.reverse_append,
    List.dropWhile_append_of_pos (by simpa using blank_back), hl]
  simp [hd]

theorem core_iff : Core text core ↔ trim text = core ∧ core ≠ [] := by
  constructor
  · intro h
    obtain ⟨c, rest, rfl, -⟩ := h.solid.first
    exact ⟨h.trim_eq, List.cons_ne_nil c rest⟩
  · rintro ⟨rfl, hne⟩
    exact ⟨exists_append_trim text, solid_trim hne⟩

end Core

end VoxelTemplate.Text
