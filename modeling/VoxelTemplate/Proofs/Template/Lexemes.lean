import Mathlib.Data.List.TakeWhile
import VoxelTemplate.Proofs.Text.Numeral
import VoxelTemplate.Template.Lexeme

/-! The lexemes of a text from left to right: one step takes a lexeme and leaves the rest, every
lexeme lies inside the text, and the last one ends where the gap at the end of the text begins. -/
namespace VoxelTemplate.Lexeme

theorem scanFrom_nil (start : Nat) : scanFrom start [] = [] := by rw [scanFrom]

theorem scanFrom_gap {c : Char} (hc : isGap c = true) (start : Nat) (text : Text) :
    scanFrom start (c :: text) = scanFrom (start + c.utf8Size) text := by
  rw [scanFrom, if_pos hc]

theorem scanFrom_cons {c : Char} (hc : isGap c = false) (start : Nat) (text : Text) :
    scanFrom start (c :: text) =
      (ofText c (tail c text), ⟨start, start + Text.byteSize (c :: tail c text)⟩) ::
        scanFrom (start + Text.byteSize (c :: tail c text)) (text.drop (tail c text).length) := by
  rw [scanFrom, if_neg (by simp [hc])]

theorem isDigit_iff {c : Char} : c.isDigit = true ↔ '0' ≤ c ∧ c ≤ '9' :=
  Bool.and_eq_true_iff.trans (and_congr decide_eq_true_iff decide_eq_true_iff)

theorem isAlpha_iff {c : Char} :
    c.isAlpha = true ↔ ('A' ≤ c ∧ c ≤ 'Z') ∨ ('a' ≤ c ∧ c ≤ 'z') := by
  have upper : c.isUpper = true ↔ 'A' ≤ c ∧ c ≤ 'Z' := decide_eq_true_iff
  have lower : c.isLower = true ↔ 'a' ≤ c ∧ c ≤ 'z' :=
    Bool.and_eq_true_iff.trans (and_congr decide_eq_true_iff decide_eq_true_iff)
  exact Bool.or_eq_true_iff.trans (or_congr upper lower)

theorem isWordStart_of_startsNumeral {c : Char} {text : Text} (h : startsNumeral c text = true) :
    isWordStart c = false := by
  simp only [startsNumeral, Bool.or_eq_true, Bool.and_eq_true, decide_eq_true_eq] at h
  rcases h with digit | ⟨rfl, -⟩
  · have least : c ≤ '9' := (isDigit_iff.1 digit).2
    rw [← Bool.not_eq_true, isWordStart, Bool.or_eq_true, isAlpha_iff, decide_eq_true_eq]
    rintro ((⟨letter, -⟩ | ⟨letter, -⟩) | rfl)
    · exact absurd (Char.le_trans letter least) (by decide)
    · exact absurd (Char.le_trans letter least) (by decide)
    · exact absurd least (by decide)
  · rfl

theorem tail_of_startsNumeral {c : Char} {text : Text} (h : startsNumeral c text = true) :
    tail c text = text.takeWhile Char.isDigit := if_pos h

theorem tail_of_isWordStart {c : Char} {text : Text} (h : isWordStart c = true) :
    tail c text = text.takeWhile isWordPart := by
  have starts : ¬ startsNumeral c text = true := fun starts => by
    rw [isWordStart_of_startsNumeral starts] at h
    contradiction
  rw [tail, if_neg starts, if_pos h]

/-- What belongs to a lexeme after its first character stands right there. -/
theorem tail_append_drop (c : Char) (text : Text) :
    tail c text ++ text.drop (tail c text).length = text := by
  have front : tail c text <+: text := by
    unfold tail
    split
    · exact List.takeWhile_prefix _
    · split
      · exact List.takeWhile_prefix _
      · exact List.nil_prefix
  exact List.prefix_iff_eq_append.1 front

theorem startsNumeral_tail (c : Char) (text : Text) :
    startsNumeral c (tail c text) = startsNumeral c text := by
  cases text with
  | nil => simp [tail]
  | cons d text =>
    by_cases minus : c = '-'
    · subst minus
      cases hd : d.isDigit <;> simp [tail, startsNumeral, hd, isWordStart]
    · simp [startsNumeral, minus]

/-- What belongs to a lexeme belongs to it where nothing else follows. -/
theorem tail_tail (c : Char) (text : Text) : tail c (tail c text) = tail c text := by
  have starts := startsNumeral_tail c text
  rw [tail, starts]
  unfold tail
  split
  · exact List.takeWhile_idem
  · split
    · exact List.takeWhile_idem
    · rfl

/-- A lexeme is cut off where its first character stands, by what stands behind that. -/
theorem exists_cut {start : Nat} {text : Text} {found : Lexeme} {span : Span}
    (h : (found, span) ∈ scanFrom start text) :
    ∃ lead c rest, text = lead ++ c :: rest ∧ isGap c = false ∧ found = ofText c (tail c rest) ∧
      span = ⟨start + Text.byteSize lead,
        start + Text.byteSize lead + Text.byteSize (c :: tail c rest)⟩ := by
  induction start, text using scanFrom.induct with
  | case1 start => simp [scanFrom_nil] at h
  | case2 start c text hc ih =>
    rw [scanFrom_gap hc] at h
    obtain ⟨lead, d, rest, rfl, hd, value, rfl⟩ := ih h
    refine ⟨c :: lead, d, rest, rfl, hd, value, ?_⟩
    rw [Text.byteSize_cons c, Nat.add_assoc start]
  | case3 start c text hc rest stop ih =>
    have gap : isGap c = false := by simpa using hc
    rw [scanFrom_cons gap] at h
    rcases List.mem_cons.1 h with h | h
    · obtain ⟨rfl, rfl⟩ := Prod.mk.inj h
      exact ⟨[], c, text, rfl, gap, rfl, rfl⟩
    · obtain ⟨lead, d, behind, split, hd, value, rfl⟩ := ih h
      refine ⟨c :: (rest ++ lead), d, behind, ?_, hd, value, ?_⟩
      · rw [List.cons_append, List.append_assoc, ← split]
        exact congrArg (List.cons c) (tail_append_drop c text).symm
      · simp only [stop, Text.byteSize_cons, Text.byteSize_append, Nat.add_assoc]

/-- A lexeme stands in the text at its span, and its own text has no other lexemes. -/
theorem exists_token {start : Nat} {text : Text} {found : Lexeme} {span : Span}
    (h : (found, span) ∈ scanFrom start text) :
    ∃ lead token rest, text = lead ++ (token ++ rest) ∧
      span = ⟨start + Text.byteSize lead, start + Text.byteSize lead + Text.byteSize token⟩ ∧
      scan token = [(found, ⟨0, Text.byteSize token⟩)] := by
  obtain ⟨lead, c, rest, rfl, gap, rfl, rfl⟩ := exists_cut h
  refine ⟨lead, c :: tail c rest, rest.drop (tail c rest).length, ?_, rfl, ?_⟩
  · rw [List.cons_append, tail_append_drop]
  · rw [scan, scanFrom_cons gap, tail_tail, List.drop_length, scanFrom_nil, Nat.zero_add]

/-- Lexemes lie inside the text, and none ends before it starts. -/
theorem scanFrom_span {start : Nat} {text : Text} {found : Lexeme} {span : Span}
    (h : (found, span) ∈ scanFrom start text) :
    start ≤ span.start ∧ span.start ≤ span.stop ∧ span.stop ≤ start + Text.byteSize text := by
  obtain ⟨lead, token, rest, rfl, rfl, -⟩ := exists_token h
  simp only [Text.byteSize_append]
  omega

section Gaps

theorem isGap_of_isDigit {c : Char} (h : c.isDigit = true) : isGap c = false := by
  simp only [isGap, Bool.or_eq_false_iff, decide_eq_false_iff_not]
  constructor <;> rintro rfl <;> simp at h

theorem isGap_of_isWordPart {c : Char} (h : isWordPart c = true) : isGap c = false := by
  simp only [isGap, Bool.or_eq_false_iff, decide_eq_false_iff_not]
  constructor <;> rintro rfl <;> revert h <;> decide

/-- A lexeme has no gap after its first character. -/
theorem isGap_of_mem_tail {c d : Char} {text : Text} (h : d ∈ tail c text) : isGap d = false := by
  unfold tail at h
  split at h
  · exact isGap_of_isDigit (List.all_eq_true.1 List.all_takeWhile d h)
  · split at h
    · exact isGap_of_isWordPart (List.all_eq_true.1 List.all_takeWhile d h)
    · contradiction

/-- Only gaps give no lexeme. -/
theorem scanFrom_eq_nil_iff {start : Nat} {text : Text} :
    scanFrom start text = [] ↔ ∀ c ∈ text, isGap c = true := by
  induction start, text using scanFrom.induct with
  | case1 start => simp [scanFrom_nil]
  | case2 start c text hc ih => simp [scanFrom_gap hc, ih, hc]
  | case3 start c text hc rest stop ih => simp [scanFrom_cons (by simpa using hc), hc]

/-- A space or a tab ends the text. -/
def EndsInGap (text : Text) : Prop := ∃ gap ∈ text.getLast?, isGap gap = true

theorem endsInGap_append {right : Text} (h : right ≠ []) (left : Text) :
    EndsInGap (left ++ right) ↔ EndsInGap right := by
  rw [EndsInGap, EndsInGap, List.getLast?_append, List.getLast?_eq_some_getLast h, Option.some_or]

theorem endsInGap_of_forall {text : Text} (hne : text ≠ []) (h : ∀ c ∈ text, isGap c = true) :
    EndsInGap text :=
  ⟨text.getLast hne, List.getLast?_eq_some_getLast hne, h _ (List.getLast_mem hne)⟩

theorem not_endsInGap_of_forall {text : Text} (h : ∀ c ∈ text, isGap c = false) :
    ¬ EndsInGap text := by
  rintro ⟨gap, hl, hg⟩
  rw [h gap (List.mem_of_getLast? hl)] at hg
  contradiction

/-- The last lexeme ends before the text where a gap ends the text, and else with the text. -/
theorem last_stop_lt_iff {start : Nat} {text : Text} {last : Lexeme × Span}
    (h : last ∈ (scanFrom start text).getLast?) :
    last.2.stop < start + Text.byteSize text ↔ EndsInGap text := by
  induction start, text using scanFrom.induct with
  | case1 start => simp [scanFrom_nil] at h
  | case2 start c text hc ih =>
    rw [scanFrom_gap hc] at h
    have more : text ≠ [] := by
      rintro rfl
      simp [scanFrom_nil] at h
    rw [← List.singleton_append, endsInGap_append more, ← ih h, List.singleton_append,
      Text.byteSize_cons, Nat.add_assoc]
  | case3 start c text hc rest stop ih =>
    have gap : isGap c = false := by simpa using hc
    have whole : c :: text = (c :: rest) ++ text.drop rest.length :=
      congrArg (List.cons c) (tail_append_drop c text).symm
    rw [scanFrom_cons gap, List.getLast?_cons] at h
    rw [whole, Text.byteSize_append, ← Nat.add_assoc]
    -- Either nothing but gaps stands behind this lexeme, or the last one is behind it.
    by_cases behind : scanFrom stop (text.drop rest.length) = []
    · rw [behind] at h
      obtain rfl := Option.some.inj h
      have gaps := scanFrom_eq_nil_iff.1 behind
      by_cases more : text.drop rest.length = []
      · have solid : ∀ d ∈ c :: rest, isGap d = false := by
          intro d hd
          rcases List.mem_cons.1 hd with rfl | hd
          · exact gap
          · exact isGap_of_mem_tail hd
        rw [more, List.append_nil]
        simp only [Text.byteSize_nil, not_endsInGap_of_forall solid, iff_false]
        exact Nat.lt_irrefl _
      · have size := Text.byteSize_pos more
        simp only [endsInGap_append more, endsInGap_of_forall more gaps, iff_true]
        exact Nat.lt_add_of_pos_right size
    · have more : text.drop rest.length ≠ [] := fun none => by
        rw [none, scanFrom_nil] at behind
        contradiction
      rw [endsInGap_append more]
      apply ih
      rw [List.getLast?_eq_some_getLast behind]
      rw [List.getLast?_eq_some_getLast behind] at h
      exact h

end Gaps

section Number

theorem startsNumeral_append {c : Char} {digits : Text} (hd : ∀ d ∈ digits, d.isDigit = true)
    (hc : c.isDigit = true ∨ (c = '-' ∧ digits ≠ [])) (text : Text) :
    startsNumeral c (digits ++ text) = true := by
  rcases hc with hc | ⟨rfl, hne⟩
  · simp [startsNumeral, hc]
  · obtain ⟨d, digits, rfl⟩ := List.exists_cons_of_ne_nil hne
    simp [startsNumeral, hd d List.mem_cons_self]

theorem ofText_eq_number_iff {c : Char} {rest : Text} {a : Coord} :
    ofText c rest = number a ↔ startsNumeral c rest = true ∧ Coord.read? (c :: rest) = some a := by
  unfold ofText
  by_cases starts : startsNumeral c rest = true
  · have colon : c ≠ ':' := by
      rintro rfl
      simp [startsNumeral] at starts
    rw [if_neg colon, if_pos starts]
    cases Coord.read? (c :: rest) <;> simp [starts]
  · simp only [starts, Bool.false_eq_true, if_false, false_and, iff_false]
    split
    · simp
    · split <;> simp

/-- The text of a number is a literal. -/
theorem literal_of_ofText {c : Char} {rest : Text} {a : Coord} (h : ofText c rest = number a) :
    Numeral.Literal (c :: rest) a.val := by
  obtain ⟨starts, value⟩ := ofText_eq_number_iff.1 h
  refine Numeral.literal_iff.2 ⟨Coord.read?_eq_some_iff.1 value, fun plus => ?_⟩
  obtain rfl : c = '+' := by simpa using plus
  simp [startsNumeral] at starts

/-- A literal in the range of coordinates is one lexeme, unless a digit stands right behind it. -/
theorem scanFrom_literal {literal text : Text} {a : Coord} (written : Numeral.Literal literal a.val)
    (h : ∀ c, text.head? = some c → c.isDigit = false) (start : Nat) :
    scanFrom start (literal ++ text) =
      (number a, ⟨start, start + Text.byteSize literal⟩) ::
        scanFrom (start + Text.byteSize literal) text := by
  obtain ⟨c, digits, rfl, hd, hc⟩ := written.eq_cons
  have starts := startsNumeral_append hd hc
  have alone : startsNumeral c digits = true := by simpa using starts []
  have gap : isGap c = false := by
    rcases hc with digit | ⟨rfl, -⟩
    · exact isGap_of_isDigit digit
    · rfl
  have rest : tail c (digits ++ text) = digits := by
    rw [tail_of_startsNumeral (starts text), List.takeWhile_append_of_pos hd]
    cases text with
    | nil => simp
    | cons d text => simp [h d rfl]
  have colon : c ≠ ':' := by
    rintro rfl
    simp at hc
  have value : ofText c digits = number a := by
    rw [ofText, if_neg colon, if_pos alone,
      Coord.read?_eq_some_iff.2 (Numeral.literal_iff.1 written).1]
  rw [List.cons_append, scanFrom_cons gap, rest, value, List.drop_left]

theorem scan_triple (x y z : Coord) :
    (scan (Text.join [' '] [x.toText, y.toText, z.toText])).map Prod.fst =
      [number x, number y, number z] := by
  have space (text : Text) (c : Char) (h : (' ' :: text).head? = some c) : c.isDigit = false := by
    obtain rfl : ' ' = c := by simpa using h
    rfl
  have last (start : Nat) : (scanFrom start z.toText).map Prod.fst = [number z] := by
    have whole := scanFrom_literal z.literal_toText
      (fun c (h : [].head? = some c) => by contradiction) start
    rw [List.append_nil] at whole
    rw [whole, scanFrom_nil]
    rfl
  simp only [Text.join, scan, List.append_assoc, List.singleton_append]
  rw [scanFrom_literal x.literal_toText (space _), scanFrom_gap (by rfl),
    scanFrom_literal y.literal_toText (space _), scanFrom_gap (by rfl), List.map_cons,
    List.map_cons, last]

end Number

end VoxelTemplate.Lexeme
