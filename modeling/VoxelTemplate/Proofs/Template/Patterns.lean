import Mathlib.Computability.Language
import VoxelTemplate.Proofs.Template.Lexemes

/-! Tokens as regular languages: a colon, an integer, a word. The scanner cuts the longest token off
a text that begins with one, and a single character off any other. -/
namespace VoxelTemplate.Lexeme

open Computability

section Patterns

/-- The character lies in one of the ranges, which are given by their first and last characters. -/
def Among (ranges : List (Char × Char)) (c : Char) : Prop :=
  ∃ range ∈ ranges, range.1 ≤ c ∧ c ≤ range.2

/-- A single character out of the ranges. -/
def oneOf (ranges : List (Char × Char)) : Language Char := {text | ∃ c, Among ranges c ∧ text = [c]}

/-- Written `:`. -/
def colonPattern : Language Char := {[':']}

/-- Written `-?[0-9]+`. -/
def numberPattern : Language Char :=
  (1 + {['-']}) * (oneOf [('0', '9')] * (oneOf [('0', '9')])∗)

/-- Written `[a-zA-Z_][a-zA-Z0-9_.-]*`. -/
def wordPattern : Language Char :=
  oneOf [('a', 'z'), ('A', 'Z'), ('_', '_')] *
    (oneOf [('a', 'z'), ('A', 'Z'), ('0', '9'), ('_', '_'), ('.', '.'), ('-', '-')])∗

/-- A token of one of the three kinds. -/
def pattern : Language Char := colonPattern + numberPattern + wordPattern

theorem mem_oneOf_kstar {ranges : List (Char × Char)} {text : Text} :
    text ∈ (oneOf ranges)∗ ↔ ∀ c ∈ text, Among ranges c := by
  rw [Language.mem_kstar]
  constructor
  · rintro ⟨parts, rfl, singles⟩ c hc
    obtain ⟨part, hp, hc⟩ := List.mem_flatten.1 hc
    obtain ⟨d, hd, rfl⟩ := singles part hp
    obtain rfl := List.mem_singleton.1 hc
    exact hd
  · intro all
    refine ⟨text.map fun c => [c], ?_, fun part hp => ?_⟩
    · rw [← List.flatMap_def, List.flatMap_singleton']
    · obtain ⟨c, hc, rfl⟩ := List.mem_map.1 hp
      exact ⟨c, all c hc, rfl⟩

theorem mem_oneOf_mul {ranges : List (Char × Char)} {others : Language Char} {text : Text} :
    text ∈ oneOf ranges * others ↔ ∃ c rest, text = c :: rest ∧ Among ranges c ∧ rest ∈ others := by
  rw [Language.mem_mul]
  constructor
  · rintro ⟨_, ⟨c, hc, rfl⟩, rest, hr, rfl⟩
    exact ⟨c, rest, rfl, hc, hr⟩
  · rintro ⟨c, rest, rfl, hc, hr⟩
    exact ⟨[c], ⟨c, hc, rfl⟩, rest, hr, rfl⟩

section Among

variable {c : Char} {ranges : List (Char × Char)}

theorem not_among_nil : ¬ Among [] c := by simp [Among]

theorem among_cons_iff {first last : Char} :
    Among ((first, last) :: ranges) c ↔ (first ≤ c ∧ c ≤ last) ∨ Among ranges c := by
  simp [Among]

theorem among_letters_iff :
    Among (('a', 'z') :: ('A', 'Z') :: ranges) c ↔ c.isAlpha = true ∨ Among ranges c := by
  rw [among_cons_iff, among_cons_iff, ← or_assoc, isAlpha_iff, or_comm (a := 'A' ≤ c ∧ c ≤ 'Z')]

theorem among_digits_iff :
    Among (('0', '9') :: ranges) c ↔ c.isDigit = true ∨ Among ranges c := by
  rw [among_cons_iff, isDigit_iff]

theorem among_mark_iff {mark : Char} :
    Among ((mark, mark) :: ranges) c ↔ c = mark ∨ Among ranges c := by
  rw [among_cons_iff, antisymm_iff, eq_comm]

theorem among_wordStart_iff :
    Among [('a', 'z'), ('A', 'Z'), ('_', '_')] c ↔ isWordStart c = true := by
  rw [among_letters_iff, among_mark_iff]
  simp [isWordStart, not_among_nil]

theorem among_wordPart_iff :
    Among [('a', 'z'), ('A', 'Z'), ('0', '9'), ('_', '_'), ('.', '.'), ('-', '-')] c ↔
      isWordPart c = true := by
  rw [among_letters_iff, among_digits_iff, among_mark_iff, among_mark_iff, among_mark_iff]
  simp [isWordPart, Char.isAlphanum, not_among_nil, or_assoc]

end Among

theorem mem_digits_iff {text : Text} :
    text ∈ oneOf [('0', '9')] * (oneOf [('0', '9')])∗ ↔ ∃ n, Numeral.Digits text n := by
  simp only [mem_oneOf_mul, mem_oneOf_kstar, among_digits_iff, not_among_nil, or_false]
  constructor
  · rintro ⟨c, rest, rfl, hc, hr⟩
    exact ⟨_, Numeral.digits_of_forall (List.cons_ne_nil c rest) (List.forall_mem_cons.2 ⟨hc, hr⟩)⟩
  · rintro ⟨n, digits⟩
    obtain ⟨c, rest, rfl⟩ := List.exists_cons_of_ne_nil digits.ne_nil
    obtain ⟨hc, hr⟩ := List.forall_mem_cons.1 digits.isDigit
    exact ⟨c, rest, rfl, hc, hr⟩

/-- The integers of the pattern are the literals. -/
theorem mem_numberPattern_iff {text : Text} :
    text ∈ numberPattern ↔ ∃ n, Numeral.Literal text n := by
  rw [numberPattern, add_mul, one_mul, Language.mem_add, mem_digits_iff, Language.mem_mul]
  constructor
  · rintro (⟨n, digits⟩ | ⟨_, rfl, _, digits, rfl⟩)
    · exact ⟨n, .plain digits⟩
    · obtain ⟨n, digits⟩ := mem_digits_iff.1 digits
      exact ⟨-n, .minus digits⟩
  · rintro ⟨_, digits | digits⟩
    · exact .inl ⟨_, digits⟩
    · exact .inr ⟨['-'], rfl, _, mem_digits_iff.2 ⟨_, digits⟩, rfl⟩

variable {c : Char} {rest : Text}

theorem cons_mem_numberPattern_iff :
    c :: rest ∈ numberPattern ↔ startsNumeral c rest = true ∧ ∀ d ∈ rest, d.isDigit = true := by
  rw [mem_numberPattern_iff]
  constructor
  · rintro ⟨n, literal⟩
    obtain ⟨d, digits, parts, hd, hc⟩ := literal.eq_cons
    obtain ⟨rfl, rfl⟩ := List.cons.inj parts
    exact ⟨List.append_nil rest ▸ startsNumeral_append hd hc [], hd⟩
  · rintro ⟨starts, digits⟩
    simp only [startsNumeral, Bool.or_eq_true, Bool.and_eq_true, decide_eq_true_eq] at starts
    rcases starts with digit | ⟨rfl, more⟩
    · refine ⟨_, .plain (Numeral.digits_of_forall (List.cons_ne_nil c rest) ?_)⟩
      exact List.forall_mem_cons.2 ⟨digit, digits⟩
    · refine ⟨_, .minus (Numeral.digits_of_forall ?_ digits)⟩
      rintro rfl
      exact Bool.false_ne_true more

theorem cons_mem_wordPattern_iff :
    c :: rest ∈ wordPattern ↔ isWordStart c = true ∧ ∀ d ∈ rest, isWordPart d = true := by
  simp only [wordPattern, mem_oneOf_mul, mem_oneOf_kstar, among_wordStart_iff, among_wordPart_iff,
    List.cons.injEq]
  constructor
  · rintro ⟨_, _, ⟨rfl, rfl⟩, h⟩
    exact h
  · exact fun h => ⟨c, rest, ⟨rfl, rfl⟩, h⟩

theorem cons_mem_pattern_iff :
    c :: rest ∈ pattern ↔ (c = ':' ∧ rest = []) ∨
      (startsNumeral c rest = true ∧ ∀ d ∈ rest, d.isDigit = true) ∨
      (isWordStart c = true ∧ ∀ d ∈ rest, isWordPart d = true) := by
  have colon : c :: rest ∈ colonPattern ↔ c = ':' ∧ rest = [] := List.cons_eq_cons
  rw [pattern, Language.mem_add, Language.mem_add, colon, cons_mem_numberPattern_iff,
    cons_mem_wordPattern_iff, or_assoc]

theorem nil_not_mem_pattern : [] ∉ pattern := by
  rintro ((colon | number) | word)
  · exact List.cons_ne_nil _ _ colon.symm
  · obtain ⟨n, literal⟩ := mem_numberPattern_iff.1 number
    obtain ⟨_, _, parts, -⟩ := literal.eq_cons
    contradiction
  · obtain ⟨_, _, parts, -⟩ := mem_oneOf_mul.1 word
    contradiction

end Patterns

section Longest

variable {c : Char} {more text : Text}

theorem startsNumeral_of_front (front : more <+: text) (h : startsNumeral c more = true) :
    startsNumeral c text = true := by
  obtain ⟨behind, rfl⟩ := front
  cases more with
  | nil =>
    have digit : c.isDigit = true := by simpa [startsNumeral] using h
    simp [startsNumeral, digit]
  | cons d more => exact h

theorem prefix_takeWhile {p : Char → Bool} (front : more <+: text)
    (h : ∀ d ∈ more, p d = true) : more <+: text.takeWhile p := by
  obtain ⟨behind, rfl⟩ := front
  rw [List.takeWhile_append_of_pos h]
  exact List.prefix_append _ _

/-- What fits a pattern goes no further than the scanner does. -/
theorem prefix_tail (fits : c :: more ∈ pattern) (front : more <+: text) :
    more <+: tail c text := by
  rcases cons_mem_pattern_iff.1 fits with ⟨-, rfl⟩ | ⟨starts, digits⟩ | ⟨starts, parts⟩
  · exact List.nil_prefix
  · rw [tail_of_startsNumeral (startsNumeral_of_front front starts)]
    exact prefix_takeWhile front digits
  · rw [tail_of_isWordStart starts]
    exact prefix_takeWhile front parts

theorem cons_tail_mem_numberPattern (starts : startsNumeral c text = true) :
    c :: tail c text ∈ numberPattern := by
  refine cons_mem_numberPattern_iff.2 ⟨startsNumeral_tail c text ▸ starts, ?_⟩
  rw [tail_of_startsNumeral starts]
  exact List.all_eq_true.1 List.all_takeWhile

theorem cons_tail_mem_wordPattern (starts : isWordStart c = true) :
    c :: tail c text ∈ wordPattern := by
  refine cons_mem_wordPattern_iff.2 ⟨starts, ?_⟩
  rw [tail_of_isWordStart starts]
  exact List.all_eq_true.1 List.all_takeWhile

/-- What the scanner takes beyond one character fits a pattern. -/
theorem cons_tail_mem_pattern_or (c : Char) (text : Text) :
    c :: tail c text ∈ pattern ∨ tail c text = [] := by
  by_cases number : startsNumeral c text = true
  · exact .inl (.inl (.inr (cons_tail_mem_numberPattern number)))
  · by_cases word : isWordStart c = true
    · exact .inl (.inr (cons_tail_mem_wordPattern word))
    · exact .inr (by rw [tail, if_neg number, if_neg word])

theorem cons_tail_mem_pattern (fits : c :: more ∈ pattern) (front : more <+: text) :
    c :: tail c text ∈ pattern := by
  rcases cons_tail_mem_pattern_or c text with fits | alone
  · exact fits
  · have short := prefix_tail fits front
    rw [alone, List.prefix_nil] at short
    rwa [alone, ← short]

/-- What is cut off a text: the longest token that the text begins with, or its first character if
it begins with none. -/
inductive Begins (text : Text) : Text → Prop where
  | longest {token : Text} (front : token <+: text) (fits : token ∈ pattern)
    (most : ∀ other ∈ pattern, other <+: text → other.length ≤ token.length) : Begins text token
  | single {c : Char} {rest : Text} (parts : text = c :: rest)
    (none : ∀ other ∈ pattern, ¬ other <+: text) : Begins text [c]

theorem Begins.unique {a b : Text} (ha : Begins text a) (hb : Begins text b) : a = b := by
  cases ha with
  | longest front fits most =>
    cases hb with
    | longest front' fits' most' =>
      have short := List.prefix_of_prefix_length_le front front' (most' _ fits front)
      exact short.eq_of_length_le (most _ fits' front')
    | single _ none => exact absurd front (none _ fits)
  | single parts none =>
    cases hb with
    | longest front fits => exact absurd front (none _ fits)
    | single parts' =>
      obtain ⟨rfl, -⟩ := List.cons.inj (parts.symm.trans parts')
      rfl

/-- The scanner cuts off what the text begins with. -/
theorem begins_cons_tail (c : Char) (text : Text) : Begins (c :: text) (c :: tail c text) := by
  have behind {other : Text} (fits : other ∈ pattern) (front : other <+: c :: text) :
      ∃ more, other = c :: more ∧ more <+: text := by
    rcases List.prefix_cons_iff.1 front with rfl | h
    · exact absurd fits nil_not_mem_pattern
    · exact h
  by_cases fits : c :: tail c text ∈ pattern
  · refine .longest ?_ fits fun other hf front => ?_
    · exact List.cons_prefix_cons.2 ⟨rfl, _, tail_append_drop c text⟩
    · obtain ⟨more, rfl, inner⟩ := behind hf front
      exact Nat.succ_le_succ (prefix_tail hf inner).length_le
  · rw [(cons_tail_mem_pattern_or c text).resolve_left fits]
    refine .single rfl fun other hf front => fits ?_
    obtain ⟨more, rfl, inner⟩ := behind hf front
    exact cons_tail_mem_pattern hf inner

end Longest

section Meaning

variable {c : Char} {rest text : Text}

theorem ofText_eq_colon_iff : ofText c rest = colon ↔ c = ':' := by
  unfold ofText
  repeat' split
  all_goals simp_all

theorem ofText_eq_word_iff :
    ofText c rest = word text ↔ c :: rest = text ∧ isWordStart c = true := by
  unfold ofText
  split
  · next mark => simp [mark, isWordStart]
  · split
    · next starts => split <;> simp [isWordStart_of_startsNumeral starts]
    · split <;> simp [*]

theorem ofText_eq_invalid_iff :
    ofText c rest = invalid text ↔ c :: rest = text ∧
      (¬ (c = ':' ∨ startsNumeral c rest = true ∨ isWordStart c = true) ∨
        (startsNumeral c rest = true ∧ Coord.read? (c :: rest) = none)) := by
  unfold ofText
  split
  · next mark => simp [mark, startsNumeral]
  · split
    · split <;> simp [*]
    · split <;> simp [*]

section Whole

-- A token that takes all that it can get: its first characters say which pattern it fits.
variable (whole : tail c rest = rest)
include whole

theorem mem_colonPattern_iff_of_tail : c :: rest ∈ colonPattern ↔ c = ':' := by
  refine ⟨fun h => (List.cons.inj h).1, ?_⟩
  rintro rfl
  rw [← whole]
  rfl

theorem mem_numberPattern_iff_of_tail :
    c :: rest ∈ numberPattern ↔ startsNumeral c rest = true := by
  refine ⟨fun h => (cons_mem_numberPattern_iff.1 h).1, fun starts => ?_⟩
  rw [← whole]
  exact cons_tail_mem_numberPattern starts

theorem mem_wordPattern_iff_of_tail : c :: rest ∈ wordPattern ↔ isWordStart c = true := by
  refine ⟨fun h => (cons_mem_wordPattern_iff.1 h).1, fun starts => ?_⟩
  rw [← whole]
  exact cons_tail_mem_wordPattern starts

end Whole

/-- What a token means. A literal is the number that it stands for, and one invalid lexeme where
that is no coordinate; so is a character that fits no pattern. -/
structure Means (token : Text) (found : Lexeme) : Prop where
  colon : found = .colon ↔ token ∈ colonPattern
  number (a : Coord) : found = .number a ↔ Numeral.Literal token a.val
  word (text : Text) : found = .word text ↔ token = text ∧ token ∈ wordPattern
  invalid (text : Text) : found = .invalid text ↔ token = text ∧
    (token ∉ pattern ∨ ∃ n, Numeral.Literal token n ∧ (n < -2147483648 ∨ 2147483647 < n))

theorem Means.unique {token : Text} {a b : Lexeme} (ha : Means token a) (hb : Means token b) :
    a = b := by
  cases a with
  | colon => exact (hb.colon.2 (ha.colon.1 rfl)).symm
  | number value => exact ((hb.number value).2 ((ha.number value).1 rfl)).symm
  | word text => exact ((hb.word text).2 ((ha.word text).1 rfl)).symm
  | invalid text => exact ((hb.invalid text).2 ((ha.invalid text).1 rfl)).symm

theorem means_ofText (whole : tail c rest = rest) : Means (c :: rest) (ofText c rest) where
  colon := by rw [ofText_eq_colon_iff, mem_colonPattern_iff_of_tail whole]
  number a := by
    refine ⟨literal_of_ofText, fun literal => ofText_eq_number_iff.2 ⟨?_, ?_⟩⟩
    · exact (mem_numberPattern_iff_of_tail whole).1 (mem_numberPattern_iff.2 ⟨a.val, literal⟩)
    · exact Coord.read?_eq_some_iff.2 (Numeral.literal_iff.1 literal).1
  word text := by rw [ofText_eq_word_iff, mem_wordPattern_iff_of_tail whole]
  invalid text := by
    have beyond : (startsNumeral c rest = true ∧ Coord.read? (c :: rest) = none) ↔
        ∃ n, Numeral.Literal (c :: rest) n ∧ (n < -2147483648 ∨ 2147483647 < n) := by
      rw [← mem_numberPattern_iff_of_tail whole, mem_numberPattern_iff, ← exists_and_right]
      exact exists_congr fun n => and_congr_right Coord.read?_of_literal
    have fits : c :: rest ∈ pattern ↔
        c = ':' ∨ startsNumeral c rest = true ∨ isWordStart c = true := by
      rw [pattern, Language.mem_add, Language.mem_add, mem_colonPattern_iff_of_tail whole,
        mem_numberPattern_iff_of_tail whole, mem_wordPattern_iff_of_tail whole, or_assoc]
    rw [ofText_eq_invalid_iff, beyond, fits]

end Meaning
end VoxelTemplate.Lexeme
