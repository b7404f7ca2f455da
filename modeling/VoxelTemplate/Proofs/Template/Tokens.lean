import Mathlib.Data.List.Pairwise
import Mathlib.Data.List.Sort
import VoxelTemplate.Proofs.Template.Patterns
import VoxelTemplate.Proofs.Text.Bytes
import VoxelTemplate.Proofs.Text.Slices

/-! Nothing of a text is lost between its lexemes, and each lexeme is as long as it can be. The list
of lexemes is the only one of which this holds. -/
namespace VoxelTemplate

/-- The byte at `i` belongs to the span. -/
def Span.Covers (span : Span) (i : Nat) : Prop := span.start ≤ i ∧ i < span.stop

theorem Text.getElem?_bytes_append (left right : Text) (i : Nat) :
    (bytes (left ++ right))[byteSize left + i]? = (bytes right)[i]? := by
  rw [bytes_append, ← length_bytes, List.getElem?_append_right (Nat.le_add_right ..),
    Nat.add_sub_cancel_left]

namespace Lexeme

/-- The byte at `i` is a space or a tab. -/
def GapAt (text : Text) (i : Nat) : Prop :=
  (Text.bytes text)[i]? = some ' '.toUInt8 ∨ (Text.bytes text)[i]? = some '\t'.toUInt8

/-- A lexeme stands in a text at a span: the bytes there are its token, the one that the text begins
with from there on. -/
inductive Stands (text : Text) : Lexeme → Span → Prop where
  | mk {before rest token : Text} {found : Lexeme} {span : Span} (parts : text = before ++ rest)
    (start : span.start = Text.byteSize before) (slice : text.slice? span = some token)
    (begins : Begins rest token) (means : Means token found) : Stands text found span

/-- The first lexeme starts before the second one, and ends there at the latest. -/
def Precedes (p q : Lexeme × Span) : Prop := p.2.start < q.2.start ∧ p.2.stop ≤ q.2.start

instance : Std.Irrefl Precedes := ⟨fun _ h => Nat.lt_irrefl _ h.1⟩

instance : Std.Antisymm Precedes := ⟨fun _ _ h h' => absurd h.1 (Nat.lt_asymm h'.1)⟩

/-- Lexemes from left to right, each with its span, which together leave out nothing of a text but
spaces and tabs. -/
structure Tokenized (text : Text) (lexemes : List (Lexeme × Span)) : Prop where
  increasing : lexemes.Pairwise Precedes
  inside : ∀ p ∈ lexemes, p.2.start < p.2.stop ∧ p.2.stop ≤ Text.byteSize text
  solid : ∀ p ∈ lexemes, ¬ GapAt text p.2.start
  gaps : ∀ i < Text.byteSize text, (∀ p ∈ lexemes, ¬ p.2.Covers i) → GapAt text i
  stands : ∀ p ∈ lexemes, Stands text p.1 p.2

section Scan

theorem gapAt_append_iff (left right : Text) (i : Nat) :
    GapAt (left ++ right) (Text.byteSize left + i) ↔ GapAt right i := by
  rw [GapAt, GapAt, Text.getElem?_bytes_append]

theorem gapAt_zero_iff {c : Char} {text : Text} : GapAt (c :: text) 0 ↔ isGap c = true := by
  have first : (Text.bytes (c :: text))[0]? = (String.utf8EncodeChar c).head? := by
    rw [← List.head?_eq_getElem?, Text.bytes_cons,
      List.head?_append_of_ne_nil _ String.utf8EncodeChar_ne_nil]
  rw [GapAt, first, Text.head?_utf8EncodeChar_iff (by decide),
    Text.head?_utf8EncodeChar_iff (by decide)]
  simp [isGap]

theorem utf8Size_of_isGap {c : Char} (h : isGap c = true) : c.utf8Size = 1 := by
  simp only [isGap, Bool.or_eq_true, decide_eq_true_eq] at h
  obtain rfl | rfl := h <;> rfl

theorem scanFrom_increasing (start : Nat) (text : Text) :
    (scanFrom start text).Pairwise Precedes := by
  induction start, text using scanFrom.induct with
  | case1 start =>
    rw [scanFrom_nil]
    exact .nil
  | case2 start c text hc ih => rwa [scanFrom_gap hc]
  | case3 start c text hc rest stop ih =>
    rw [scanFrom_cons (by simpa using hc)]
    refine .cons (fun p hp => ?_) ih
    have behind := (scanFrom_span hp).1
    have size := Text.byteSize_pos (List.cons_ne_nil c (tail c text))
    constructor <;> dsimp only <;> omega

/-- What the scanner passes over is a gap. -/
theorem gapAt_of_not_covers (start : Nat) (text : Text) :
    ∀ i < Text.byteSize text, (∀ p ∈ scanFrom start text, ¬ p.2.Covers (start + i)) →
      GapAt text i := by
  induction start, text using scanFrom.induct with
  | case1 start =>
    intro i hi
    contradiction
  | case2 start c text hc ih =>
    intro i hi h
    rw [scanFrom_gap hc] at h
    rcases Nat.lt_or_ge i c.utf8Size with first | behind
    · rw [utf8Size_of_isGap hc, Nat.lt_one_iff] at first
      rw [first]
      exact gapAt_zero_iff.2 hc
    · obtain ⟨j, rfl⟩ := Nat.exists_eq_add_of_le behind
      refine (gapAt_append_iff [c] text j).2 (ih j (Nat.lt_of_add_lt_add_left hi) fun p hp => ?_)
      rw [Nat.add_assoc]
      exact h p hp
  | case3 start c text hc rest stop ih =>
    intro i hi h
    have whole : c :: text = (c :: rest) ++ text.drop rest.length :=
      congrArg (List.cons c) (tail_append_drop c text).symm
    rw [scanFrom_cons (by simpa using hc)] at h
    obtain ⟨first, others⟩ := List.forall_mem_cons.1 h
    -- The byte lies behind the first lexeme, since that covers all bytes of its own text.
    obtain ⟨j, rfl⟩ : ∃ j, i = Text.byteSize (c :: rest) + j := by
      refine Nat.exists_eq_add_of_le (Nat.le_of_not_lt fun short => first ⟨?_, ?_⟩)
      · exact Nat.le_add_right ..
      · exact Nat.add_lt_add_left short start
    rw [whole, Text.byteSize_append] at hi
    rw [whole, gapAt_append_iff]
    refine ih j (Nat.lt_of_add_lt_add_left hi) fun p hp => ?_
    rw [Nat.add_assoc]
    exact others p hp

theorem tokenized_scan (text : Text) : Tokenized text (scan text) where
  increasing := scanFrom_increasing 0 text
  inside p hp := by
    obtain ⟨lead, c, rest, rfl, -, -, place⟩ := exists_cut hp
    have within := (scanFrom_span hp).2.2
    have size := Text.byteSize_pos (List.cons_ne_nil c (tail c rest))
    rw [place] at within ⊢
    dsimp only at within ⊢
    omega
  solid p hp := by
    obtain ⟨lead, c, rest, rfl, solid, -, place⟩ := exists_cut hp
    rw [place, Nat.zero_add, ← Nat.add_zero (Text.byteSize lead), gapAt_append_iff, gapAt_zero_iff]
    simp [solid]
  gaps i hi h := gapAt_of_not_covers 0 text i hi (by rwa [Nat.zero_add])
  stands p hp := by
    obtain ⟨lead, c, rest, rfl, -, value, place⟩ := exists_cut hp
    rw [Nat.zero_add] at place
    rw [value]
    refine .mk rfl (congrArg Span.start place) ?_ (begins_cons_tail c rest)
      (means_ofText (tail_tail c rest))
    refine Text.slice?_eq_some_iff.2 ⟨lead, rest.drop (tail c rest).length, ?_, place⟩
    rw [List.cons_append, tail_append_drop]

end Scan

section Unique

variable {text : Text} {a b : List (Lexeme × Span)} {p q : Lexeme × Span}

theorem Stands.unique (hp : Stands text p.1 p.2) (hq : Stands text q.1 q.2)
    (same : p.2.start = q.2.start) : p = q := by
  obtain ⟨found, span⟩ := p
  obtain ⟨found', span'⟩ := q
  obtain @⟨before, rest, token, _, _, parts, start, slice, begins, means⟩ := hp
  obtain @⟨before', rest', token', _, _, parts', start', slice', begins', means'⟩ := hq
  dsimp only at same
  -- The same place parts the text in the same two sides, so the tokens are the same.
  have sides := Text.splitBytes?_append before rest
  rw [← parts, ← start, same, start', parts', Text.splitBytes?_append] at sides
  obtain ⟨rfl, rfl⟩ := Prod.mk.inj (Option.some.inj sides)
  obtain rfl := begins.unique begins'
  obtain rfl := means.unique means'
  obtain ⟨_, _, -, rfl⟩ := Text.slice?_eq_some_iff.1 slice
  obtain ⟨_, _, -, rfl⟩ := Text.slice?_eq_some_iff.1 slice'
  dsimp only at same
  rw [same]

namespace Tokenized

theorem eq_of_covers (h : Tokenized text a) (hp : p ∈ a) (hq : q ∈ a) {i : Nat}
    (covers : p.2.Covers i) (covers' : q.2.Covers i) : p = q := by
  have symm : Std.Symm fun p q => Precedes p q ∨ Precedes q p := ⟨fun _ _ => Or.symm⟩
  have apart : a.Pairwise fun p q => Precedes p q ∨ Precedes q p := h.increasing.imp .inl
  by_contra other
  rcases apart.forall hp hq other with first | first
  · exact absurd (Nat.lt_of_lt_of_le covers.2 (first.2.trans covers'.1)) (Nat.lt_irrefl i)
  · exact absurd (Nat.lt_of_lt_of_le covers'.2 (first.2.trans covers.1)) (Nat.lt_irrefl i)

theorem covers_start (h : Tokenized text a) (hp : p ∈ a) : p.2.Covers p.2.start :=
  ⟨Nat.le_refl _, (h.inside p hp).1⟩

theorem start_lt (h : Tokenized text a) (hp : p ∈ a) : p.2.start < Text.byteSize text :=
  Nat.lt_of_lt_of_le (h.inside p hp).1 (h.inside p hp).2

theorem exists_covers (h : Tokenized text a) {i : Nat} (hi : i < Text.byteSize text)
    (solid : ¬ GapAt text i) : ∃ p ∈ a, p.2.Covers i := by
  by_contra none
  exact solid (h.gaps i hi fun p hp covers => none ⟨p, hp, covers⟩)

/-- Lexemes of one list are in the other, by induction on where they start: one that started inside
a lexeme of the other list would overlap an earlier one of its own. -/
theorem subset (ha : Tokenized text a) (hb : Tokenized text b) : a ⊆ b := by
  intro p hp
  induction hs : p.2.start using Nat.strong_induction_on generalizing p with
  | _ s ih =>
    obtain ⟨q, hq, covers⟩ := hb.exists_covers (ha.start_lt hp) (ha.solid p hp)
    rcases Nat.lt_or_eq_of_le covers.1 with before | same
    · obtain ⟨r, hr, first⟩ := ha.exists_covers (hb.start_lt hq) (hb.solid q hq)
      have known : r ∈ b := ih _ (hs ▸ Nat.lt_of_le_of_lt first.1 before) hr rfl
      obtain rfl := hb.eq_of_covers known hq first (hb.covers_start hq)
      obtain rfl := ha.eq_of_covers hr hp covers (ha.covers_start hp)
      exact absurd before (Nat.lt_irrefl _)
    · rwa [(ha.stands p hp).unique (hb.stands q hq) same.symm]

theorem unique (ha : Tokenized text a) (hb : Tokenized text b) : a = b :=
  List.Subset.antisymm_of_pairwise ha.increasing hb.increasing (ha.subset hb) (hb.subset ha)

end Tokenized

/-- A text has one list of lexemes that leaves out nothing but gaps and takes as much as it can for
each lexeme: the one that the scanner finds. -/
theorem tokenized_iff_eq_scan (text : Text) (lexemes : List (Lexeme × Span)) :
    Tokenized text lexemes ↔ lexemes = scan text :=
  ⟨fun h => h.unique (tokenized_scan text), fun h => h ▸ tokenized_scan text⟩

example : scan "-7a é\t2147483648".toList =
    [(.number { val := -7 }, ⟨0, 2⟩), (.word ['a'], ⟨2, 3⟩), (.invalid ['é'], ⟨4, 6⟩),
      (.invalid "2147483648".toList, ⟨7, 17⟩)] := by
  decide +kernel

end Unique

end Lexeme
end VoxelTemplate
