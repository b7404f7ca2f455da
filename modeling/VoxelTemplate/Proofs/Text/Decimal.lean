import Mathlib.Data.List.Induction
import VoxelTemplate.Coord

/-! Decimal numerals, said without a reader: which texts stand for which numbers. The readers of
numerals answer exactly on these texts, with their numbers. Literals are the numerals without a plus
sign. -/
namespace VoxelTemplate

namespace Numeral

/-- Decimal digits, at least one, and the number that they stand for. -/
inductive Digits : Text → Nat → Prop where
  | one {c : Char} (digit : c.isDigit = true) : Digits [c] (c.toNat - '0'.toNat)
  | more {text : Text} {n : Nat} {c : Char} (h : Digits text n) (digit : c.isDigit = true) :
    Digits (text ++ [c]) (10 * n + (c.toNat - '0'.toNat))

/-- Digits, which may have a plus sign in front. -/
inductive Unsigned : Text → Nat → Prop where
  | plain {text : Text} {n : Nat} (h : Digits text n) : Unsigned text n
  | plus {text : Text} {n : Nat} (h : Digits text n) : Unsigned ('+' :: text) n

/-- Digits, which may have either sign in front. -/
inductive Signed : Text → Int → Prop where
  | plain {text : Text} {n : Nat} (h : Unsigned text n) : Signed text n
  | minus {text : Text} {n : Nat} (h : Digits text n) : Signed ('-' :: text) (-n)

/-- Digits, which may have a minus sign in front. -/
inductive Literal : Text → Int → Prop where
  | plain {text : Text} {n : Nat} (h : Digits text n) : Literal text n
  | minus {text : Text} {n : Nat} (h : Digits text n) : Literal ('-' :: text) (-n)

theorem Digits.isDigit {text : Text} {n : Nat} (h : Digits text n) :
    ∀ c ∈ text, c.isDigit = true := by
  induction h with
  | one digit => simpa using digit
  | more _ digit ih =>
    intro d hd
    rcases List.mem_append.1 hd with hd | hd
    · exact ih d hd
    · obtain rfl := List.mem_singleton.1 hd
      exact digit

theorem Digits.digits?_eq {text : Text} {n : Nat} (h : Digits text n) : digits? text = some n := by
  have value : Nat.ofDigitChars 10 text 0 = n ∧ text ≠ [] := by
    induction h with
    | one => simp [Nat.ofDigitChars_cons]
    | more _ _ ih => simp [Nat.ofDigitChars_append, Nat.ofDigitChars_cons, ih.1]
  have all : text.all Char.isDigit = true := List.all_eq_true.2 h.isDigit
  simp [digits?, value, all]

theorem digits_of_forall {text : Text} (hne : text ≠ []) (h : ∀ c ∈ text, c.isDigit = true) :
    Digits text (Nat.ofDigitChars 10 text 0) := by
  induction text using List.reverseRecOn with
  | nil => contradiction
  | append_singleton text c ih =>
    have digit : c.isDigit = true := h c (by simp)
    rw [Nat.ofDigitChars_append, Nat.ofDigitChars_cons, Nat.ofDigitChars_nil]
    cases text with
    | nil => simpa using Digits.one digit
    | cons d text => exact .more (ih (by simp) fun e he => h e (List.mem_append_left _ he)) digit

theorem digits?_eq_some_iff {text : Text} {n : Nat} : digits? text = some n ↔ Digits text n := by
  refine ⟨fun h => ?_, Digits.digits?_eq⟩
  unfold digits? at h
  split at h
  · next hd =>
    obtain ⟨hne, all⟩ : text ≠ [] ∧ ∀ c ∈ text, c.isDigit = true := by simpa using hd
    obtain rfl := Option.some.inj h
    exact digits_of_forall hne all
  · cases h

theorem unsigned?_eq_some_iff {text : Text} {n : Nat} :
    unsigned? text = some n ↔ Unsigned text n := by
  unfold unsigned?
  split
  · next digits =>
    rw [digits?_eq_some_iff]
    refine ⟨.plus, fun h => ?_⟩
    cases h with
    | plain h => exact absurd (h.isDigit '+' List.mem_cons_self) (by decide)
    | plus h => exact h
  · next other =>
    rw [digits?_eq_some_iff]
    refine ⟨.plain, fun h => ?_⟩
    cases h with
    | plain h => exact h
    | plus => exact absurd rfl (other _)

theorem signed?_eq_some_iff {text : Text} {n : Int} : signed? text = some n ↔ Signed text n := by
  unfold signed?
  split
  · next digits =>
    simp only [Option.map_eq_some_iff, Option.bind_eq_bind, Option.bind_eq_some_iff,
      Option.pure_def, Option.some.injEq, digits?_eq_some_iff]
    constructor
    · rintro ⟨_, ⟨m, h, rfl⟩, rfl⟩
      exact .minus h
    · intro h
      cases h with
      | plain h =>
        cases h with
        | plain h => exact absurd (h.isDigit '-' List.mem_cons_self) (by decide)
      | minus h => exact ⟨_, ⟨_, h, rfl⟩, rfl⟩
  · next other =>
    simp only [Option.map_eq_some_iff, Option.bind_eq_bind, Option.bind_eq_some_iff,
      Option.pure_def, Option.some.injEq, unsigned?_eq_some_iff]
    constructor
    · rintro ⟨_, ⟨m, h, rfl⟩, rfl⟩
      exact .plain h
    · intro h
      cases h with
      | plain h => exact ⟨_, ⟨_, h, rfl⟩, rfl⟩
      | minus => exact absurd rfl (other _)

theorem Digits.ne_nil {text : Text} {n : Nat} (h : Digits text n) : text ≠ [] := by
  cases h <;> simp

/-- A literal is a numeral that does not begin with a plus sign. -/
theorem literal_iff {text : Text} {n : Int} :
    Literal text n ↔ Signed text n ∧ text.head? ≠ some '+' := by
  constructor
  · intro h
    cases h with
    | plain h =>
      refine ⟨.plain (.plain h), fun plus => ?_⟩
      exact absurd (h.isDigit _ (List.mem_of_head? plus)) (by decide)
    | minus h => exact ⟨.minus h, by simp⟩
  · rintro ⟨signed, plus⟩
    cases signed with
    | plain h =>
      cases h with
      | plain h => exact .plain h
      | plus => exact absurd rfl plus
    | minus h => exact .minus h

/-- A literal stands for one number. -/
theorem Literal.unique {text : Text} {m n : Int} (hm : Literal text m) (hn : Literal text n) :
    m = n := by
  have read := signed?_eq_some_iff.2 (literal_iff.1 hm).1
  rw [signed?_eq_some_iff.2 (literal_iff.1 hn).1] at read
  exact (Option.some.inj read).symm

/-- A literal is a digit or a minus sign with digits behind; after the sign there is at least
one. -/
theorem Literal.eq_cons {text : Text} {n : Int} (h : Literal text n) :
    ∃ c digits, text = c :: digits ∧ (∀ d ∈ digits, d.isDigit = true) ∧
      (c.isDigit = true ∨ (c = '-' ∧ digits ≠ [])) := by
  cases h with
  | plain h =>
    obtain ⟨c, digits, rfl⟩ := List.exists_cons_of_ne_nil h.ne_nil
    exact ⟨c, digits, rfl, fun d hd => h.isDigit d (List.mem_cons_of_mem _ hd),
      .inl (h.isDigit c List.mem_cons_self)⟩
  | @minus digits _ h => exact ⟨'-', digits, rfl, h.isDigit, .inr ⟨rfl, h.ne_nil⟩⟩

end Numeral

namespace Coord

/-- A decimal number within the range of coordinates. -/
def Written (text : Text) : Prop :=
  ∃ n : Int, Numeral.Signed text n ∧ -2147483648 ≤ n ∧ n ≤ 2147483647

theorem read?_eq_some_iff {text : Text} {a : Coord} :
    read? text = some a ↔ Numeral.Signed text a.val := by
  rw [read?, Option.bind_eq_some_iff, ← Numeral.signed?_eq_some_iff]
  constructor
  · rintro ⟨n, hn, ha⟩
    unfold ofInt? at ha
    split at ha
    · obtain rfl := Option.some.inj ha
      exact hn
    · contradiction
  · exact fun h => ⟨a.val, h, a.ofInt?_val⟩

theorem read?_eq_none_iff {text : Text} : read? text = none ↔ ¬ Written text := by
  simp only [read?, Option.bind_eq_none_iff, Written, not_exists, Numeral.signed?_eq_some_iff]
  refine forall_congr' fun n => ?_
  unfold ofInt?
  split <;> simp [*]

theorem read?_of_literal {text : Text} {n : Int} (literal : Numeral.Literal text n) :
    read? text = none ↔ n < -2147483648 ∨ 2147483647 < n := by
  rw [read?_eq_none_iff]
  constructor
  · intro h
    by_contra inside
    exact h ⟨n, (Numeral.literal_iff.1 literal).1, by omega, by omega⟩
  · rintro outside ⟨m, signed, least, greatest⟩
    have plus := (Numeral.literal_iff.1 literal).2
    obtain rfl := literal.unique (Numeral.literal_iff.2 ⟨signed, plus⟩)
    omega

end Coord
end VoxelTemplate
