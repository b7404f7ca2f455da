import Mathlib.Data.List.Chain
import VoxelTemplate.Proofs.Template.Directives

/-! Which bodies are offsets, said of their characters: three literals, with gaps around them. The
format asks for a gap between neighbours, and the reader does without one before a minus sign. -/
namespace VoxelTemplate

namespace Lexeme

theorem not_isDigit_of_isGap {c : Char} (h : isGap c = true) : c.isDigit = false := by
  rw [← Bool.not_eq_true]
  intro digit
  rw [isGap_of_isDigit digit] at h
  contradiction

theorem scanFrom_gaps {gaps : Text} (h : ∀ c ∈ gaps, isGap c = true) (start : Nat) (text : Text) :
    scanFrom start (gaps ++ text) = scanFrom (start + Text.byteSize gaps) text := by
  induction gaps generalizing start with
  | nil => rfl
  | cons c gaps ih =>
    rw [List.cons_append, scanFrom_gap (h c List.mem_cons_self),
      ih fun d hd => h d (List.mem_cons_of_mem _ hd), Text.byteSize_cons, Nat.add_assoc]

/-- A number takes all digits that it can get. -/
theorem not_isDigit_behind {c : Char} {text : Text} (h : startsNumeral c (tail c text) = true)
    {d : Char} (hd : (text.drop (tail c text).length).head? = some d) : d.isDigit = false := by
  have digits := tail_of_startsNumeral (startsNumeral_tail c text ▸ h)
  have whole := tail_append_drop c text
  rw [digits] at whole hd
  have behind := List.append_cancel_left
    (whole.trans (List.takeWhile_append_dropWhile (p := Char.isDigit)).symm)
  have first := List.head?_dropWhile_not Char.isDigit text
  rw [← behind, hd] at first
  simpa using first

/-- Where the first lexeme is a number, the text begins with a literal, gaps before it left out, and
the other lexemes are those of the rest. -/
theorem exists_literal_of_scanFrom {start : Nat} {text : Text} {a : Coord} {span : Span}
    {more : List (Lexeme × Span)} (h : scanFrom start text = (number a, span) :: more) :
    ∃ gaps literal rest, text = gaps ++ (literal ++ rest) ∧ (∀ c ∈ gaps, isGap c = true) ∧
      Numeral.Literal literal a.val ∧ (∀ c, rest.head? = some c → c.isDigit = false) ∧
      scanFrom span.stop rest = more := by
  induction start, text using scanFrom.induct with
  | case1 start =>
    rw [scanFrom_nil] at h
    contradiction
  | case2 start c text hc ih =>
    rw [scanFrom_gap hc] at h
    obtain ⟨gaps, literal, rest, rfl, hg, behind⟩ := ih h
    exact ⟨c :: gaps, literal, rest, rfl, List.forall_mem_cons.2 ⟨hc, hg⟩, behind⟩
  | case3 start c text hc rest stop ih =>
    rw [scanFrom_cons (by simpa using hc)] at h
    obtain ⟨head, others⟩ := List.cons.inj h
    obtain ⟨value, rfl⟩ := Prod.mk.inj head
    refine ⟨[], c :: rest, text.drop rest.length, ?_, by simp, literal_of_ofText value, ?_, others⟩
    · exact congrArg (List.cons c) (tail_append_drop c text).symm
    · intro d hd
      exact not_isDigit_behind (ofText_eq_number_iff.1 value).1 hd

end Lexeme

namespace Offset

/-- Three literals, and gaps before, between and behind them. `Apart gap literal` says which gaps
will do before a literal that is not the first. -/
inductive Spelling (Apart : Text → Text → Prop) : Text → Offset → Prop where
  | mk {front left right back a b c : Text} {offset : Offset}
    (gaps : ∀ d ∈ front ++ left ++ right ++ back, Lexeme.isGap d = true)
    (x : Numeral.Literal a offset.x.val) (y : Numeral.Literal b offset.y.val)
    (z : Numeral.Literal c offset.z.val) (xy : Apart left b) (yz : Apart right c) :
    Spelling Apart (front ++ (a ++ (left ++ (b ++ (right ++ (c ++ back)))))) offset

/-- Neighbours are parted by at least one space or tab. -/
def Parted : Text → Offset → Prop := Spelling fun gap _ => gap ≠ []

/-- Neighbours are parted by at least one space or tab, or by the minus sign of the second. -/
def Spelled : Text → Offset → Prop :=
  Spelling fun gap literal => gap = [] → literal.head? = some '-'

theorem not_isDigit_of_apart {gap literal rest : Text} {n : Int}
    (gaps : ∀ d ∈ gap, Lexeme.isGap d = true) (written : Numeral.Literal literal n)
    (apart : gap = [] → literal.head? = some '-') {d : Char}
    (hd : (gap ++ (literal ++ rest)).head? = some d) : d.isDigit = false := by
  obtain ⟨e, digits, rfl, -, -⟩ := written.eq_cons
  cases gap with
  | nil =>
    obtain rfl : e = '-' := by simpa using apart rfl
    obtain rfl : '-' = d := by simpa using hd
    rfl
  | cons f gap =>
    obtain rfl : f = d := by simpa using hd
    exact Lexeme.not_isDigit_of_isGap (gaps f List.mem_cons_self)

theorem apart_of_not_isDigit {gap literal rest : Text} {n : Int}
    (written : Numeral.Literal literal n)
    (h : ∀ d, (gap ++ (literal ++ rest)).head? = some d → d.isDigit = false) :
    gap = [] → literal.head? = some '-' := by
  rintro rfl
  obtain ⟨e, digits, rfl, -, digit | ⟨rfl, -⟩⟩ := written.eq_cons
  · rw [h e rfl] at digit
    contradiction
  · rfl

/-- The reader takes the bodies with three literals, and takes them for what they say. -/
theorem read_eq_ok_iff {body : Text} {offset : Offset} :
    read body = .ok offset ↔ Spelled body offset := by
  constructor
  · intro h
    unfold read at h
    split at h
    · next x sx y sy z sz scanned =>
      obtain rfl := Except.ok.inj h
      obtain ⟨front, a, _, rfl, hf, hx, behind_a, next_b⟩ :=
        Lexeme.exists_literal_of_scanFrom scanned
      obtain ⟨left, b, _, rfl, hl, hy, behind_b, next_c⟩ :=
        Lexeme.exists_literal_of_scanFrom next_b
      obtain ⟨right, c, back, rfl, hr, hz, -, end_c⟩ := Lexeme.exists_literal_of_scanFrom next_c
      have hb := Lexeme.scanFrom_eq_nil_iff.1 end_c
      exact .mk (by simp only [List.forall_mem_append]; exact ⟨⟨⟨hf, hl⟩, hr⟩, hb⟩) hx hy hz
        (apart_of_not_isDigit hy behind_a) (apart_of_not_isDigit hz behind_b)
    · contradiction
  · rintro ⟨gaps, x, y, z, xy, yz⟩
    simp only [List.forall_mem_append] at gaps
    obtain ⟨⟨⟨hf, hl⟩, hr⟩, hb⟩ := gaps
    apply read_eq
    rw [Lexeme.scan, Lexeme.scanFrom_gaps hf,
      Lexeme.scanFrom_literal x fun _ => not_isDigit_of_apart hl y xy, Lexeme.scanFrom_gaps hl,
      Lexeme.scanFrom_literal y fun _ => not_isDigit_of_apart hr z yz, Lexeme.scanFrom_gaps hr,
      Lexeme.scanFrom_literal z, Lexeme.scanFrom_eq_nil_iff.2 hb]
    · rfl
    · exact fun d hd => Lexeme.not_isDigit_of_isGap (hb d (List.mem_of_head? hd))

section Unglued

/-- No minus sign stands right behind a digit. -/
def Unglued (text : Text) : Prop := text.IsChain fun c d => ¬ (c.isDigit = true ∧ d = '-')

instance : DecidablePred Unglued := fun text => by unfold Unglued; infer_instance

theorem unglued_cons {c : Char} {text : Text} :
    Unglued (c :: text) ↔ (c.isDigit = true → text.head? ≠ some '-') ∧ Unglued text := by
  rw [Unglued, List.isChain_cons]
  refine and_congr_left' ?_
  cases text <;> simp

theorem unglued_gaps_append {gaps : Text} (h : ∀ c ∈ gaps, Lexeme.isGap c = true) (text : Text) :
    Unglued (gaps ++ text) ↔ Unglued text := by
  induction gaps with
  | nil => rfl
  | cons c gaps ih =>
    have no_digit := Lexeme.not_isDigit_of_isGap (h c List.mem_cons_self)
    rw [List.cons_append, unglued_cons, ih fun d hd => h d (List.mem_cons_of_mem _ hd)]
    simp [no_digit]

theorem unglued_digits_append {c : Char} {digits : Text} (hc : c.isDigit = true)
    (h : ∀ d ∈ digits, d.isDigit = true) (text : Text) :
    Unglued (c :: (digits ++ text)) ↔ text.head? ≠ some '-' ∧ Unglued text := by
  induction digits generalizing c with
  | nil => simp [unglued_cons, hc]
  | cons d digits ih =>
    have hd := h d List.mem_cons_self
    have minus : d ≠ '-' := by
      rintro rfl
      contradiction
    rw [unglued_cons, List.cons_append, ih hd fun e he => h e (List.mem_cons_of_mem _ he)]
    simp [minus]

theorem unglued_literal_append {literal : Text} {n : Int} (h : Numeral.Literal literal n)
    (text : Text) : Unglued (literal ++ text) ↔ text.head? ≠ some '-' ∧ Unglued text := by
  obtain ⟨c, digits, rfl, hd, hc | ⟨rfl, more⟩⟩ := h.eq_cons
  · exact unglued_digits_append hc hd text
  · obtain ⟨d, digits, rfl⟩ := List.exists_cons_of_ne_nil more
    obtain ⟨hd, hds⟩ := List.forall_mem_cons.1 hd
    rw [List.cons_append, unglued_cons, List.cons_append, unglued_digits_append hd hds]
    simp

theorem head?_ne_minus_iff {gap literal rest : Text} {n : Int}
    (gaps : ∀ d ∈ gap, Lexeme.isGap d = true) (written : Numeral.Literal literal n) :
    (gap ++ (literal ++ rest)).head? ≠ some '-' ↔ (gap = [] → literal.head? ≠ some '-') := by
  obtain ⟨e, digits, rfl, -, -⟩ := written.eq_cons
  cases gap with
  | nil => simp
  | cons f gap =>
    have minus : f ≠ '-' := by
      rintro rfl
      exact absurd (gaps _ List.mem_cons_self) (by decide)
    simp [minus]

theorem unglued_iff {front left right back a b c : Text} {offset : Offset}
    (gaps : ∀ d ∈ front ++ left ++ right ++ back, Lexeme.isGap d = true)
    (x : Numeral.Literal a offset.x.val) (y : Numeral.Literal b offset.y.val)
    (z : Numeral.Literal c offset.z.val) :
    Unglued (front ++ (a ++ (left ++ (b ++ (right ++ (c ++ back)))))) ↔
      (left = [] → b.head? ≠ some '-') ∧ (right = [] → c.head? ≠ some '-') := by
  simp only [List.forall_mem_append] at gaps
  obtain ⟨⟨⟨hf, hl⟩, hr⟩, hb⟩ := gaps
  have last : back.head? ≠ some '-' := fun minus =>
    absurd (hb _ (List.mem_of_head? minus)) (by decide)
  have plain : Unglued back := by
    rw [← List.append_nil back, unglued_gaps_append hb]
    exact .nil
  rw [unglued_gaps_append hf, unglued_literal_append x, head?_ne_minus_iff hl y,
    unglued_gaps_append hl, unglued_literal_append y, head?_ne_minus_iff hr z,
    unglued_gaps_append hr, unglued_literal_append z]
  simp [last, plain]

/-- What the reader takes beyond the format has a minus sign right behind a digit. -/
theorem parted_iff {body : Text} {offset : Offset} :
    Parted body offset ↔ Spelled body offset ∧ Unglued body := by
  constructor
  · rintro ⟨gaps, x, y, z, xy, yz⟩
    refine ⟨.mk gaps x y z (fun none => absurd none xy) fun none => absurd none yz, ?_⟩
    exact (unglued_iff gaps x y z).2 ⟨fun none => absurd none xy, fun none => absurd none yz⟩
  · rintro ⟨⟨gaps, x, y, z, xy, yz⟩, apart⟩
    obtain ⟨hl, hr⟩ := (unglued_iff gaps x y z).1 apart
    exact .mk gaps x y z (fun none => hl none (xy none)) fun none => hr none (yz none)

end Unglued

/-- A body reads exactly if it spells three literals, as these, and has the fault of a directive
otherwise. Of the bodies that read, those without a minus sign right behind a digit are the ones in
the format. -/
theorem read_iff_spelled (body : Text) :
    (∀ offset, read body = .ok offset ↔ Spelled body offset) ∧
      (∀ offset, Parted body offset ↔ read body = .ok offset ∧ Unglued body) ∧
      ((∃ offset, Spelled body offset) ∨
        ((¬ ∃ offset, Spelled body offset) ∧
          ∃ fault, read body = .error fault ∧ fault.isDirective = true)) := by
  refine ⟨fun offset => read_eq_ok_iff, fun offset => ?_, ?_⟩
  · rw [read_eq_ok_iff, parted_iff]
  · rcases read_cases body with ⟨-, offset, ok⟩ | ⟨-, fault, error, directive, -⟩
    · exact .inl ⟨offset, read_eq_ok_iff.1 ok⟩
    · refine .inr ⟨?_, fault, error, directive⟩
      rintro ⟨offset, spelled⟩
      cases error.symm.trans (read_eq_ok_iff.2 spelled)

/-- A body with no gap between its first two numbers is read all the same. -/
theorem glued_offset_read :
    let body := "1-2 3".toList
    let offset : Offset := ⟨{ val := 1 }, { val := -2 }, { val := 3 }⟩
    read body = .ok offset ∧ ¬ Parted body offset := by
  intro body offset
  refine ⟨by decide +kernel, fun parted => ?_⟩
  exact absurd (parted_iff.1 parted).2 (by decide)

end Offset
end VoxelTemplate
