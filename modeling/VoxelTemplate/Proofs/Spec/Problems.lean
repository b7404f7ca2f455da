import VoxelTemplate.Proofs.Spec.Reading
import VoxelTemplate.Proofs.Text.Decimal

/-! What can be wrong with a specification, said on its words. A reading reports exactly this, the
count before the tile data, and the same for every facing. -/
namespace VoxelTemplate

/-- At most one report, made exactly if there is something to report. -/
structure Reports (Problem : Diagnostic → Prop) (found : List Diagnostic) : Prop where
  mem_iff : ∀ d, d ∈ found ↔ Problem d
  length_le_one : found.length ≤ 1

namespace Reports

variable {Problem : Diagnostic → Prop}

theorem none (h : ∀ d, ¬ Problem d) : Reports Problem [] :=
  ⟨fun d => by simp [h d], by simp⟩

theorem one {d : Diagnostic} (h : Problem d) (only : ∀ other, Problem other → other = d) :
    Reports Problem [d] := by
  refine ⟨fun other => ?_, by simp⟩
  rw [List.mem_singleton]
  exact ⟨fun he => he ▸ h, only other⟩

theorem eq_nil_iff {found : List Diagnostic} (h : Reports Problem found) :
    found = [] ↔ ∀ d, ¬ Problem d := by
  simp only [List.eq_nil_iff_forall_not_mem, h.mem_iff]

/-- A problem is reported once. -/
theorem count_eq_one {found : List Diagnostic} (h : Reports Problem found) {d : Diagnostic}
    (hd : Problem d) : found.count d = 1 := by
  have := List.count_le_length (a := d) (l := found)
  have := List.count_pos_iff.2 ((h.mem_iff d).2 hd)
  have := h.length_le_one
  omega

theorem count_eq_zero {found : List Diagnostic} (h : Reports Problem found) {d : Diagnostic}
    (hd : ¬ Problem d) : found.count d = 0 :=
  List.count_eq_zero_of_not_mem fun hm => hd ((h.mem_iff d).1 hm)

end Reports

namespace Spec

/-- A decimal number of 32 bits, without a minus sign. -/
def CountWritten (text : Text) : Prop := ∃ n : Nat, Numeral.Unsigned text n ∧ n < 4294967296

theorem readCount?_eq_none_iff {text : Text} : readCount? text = none ↔ ¬ CountWritten text := by
  simp only [readCount?, Option.bind_eq_none_iff, CountWritten, not_exists,
    Numeral.unsigned?_eq_some_iff]
  refine forall_congr' fun n => ?_
  split <;> simp [*]

/-- The name in a specification and the words behind it. The mark of a summon and the count right
behind its name belong to neither. -/
inductive Worded (raw : Text) : Text → List Text → Prop where
  | block {id : Text} {words : List Text} (h : Text.split ' ' raw = id :: words)
    (hm : id.head? ≠ some '$') : Worded raw id words
  | counted {id value : Text} {words : List Text}
    (h : Text.split ' ' raw = ('$' :: id) :: ("count:".toList ++ value) :: words) :
    Worded raw id words
  | uncounted {id : Text} {words : List Text} (h : Text.split ' ' raw = ('$' :: id) :: words)
    (hc : ∀ value more, words ≠ ("count:".toList ++ value) :: more) : Worded raw id words

/-- A summon with a count that is no number of 32 bits. -/
inductive CountProblem (raw : Text) : Diagnostic → Prop where
  | intro {id value : Text} {words : List Text}
    (h : Text.split ' ' raw = ('$' :: id) :: ("count:".toList ++ value) :: words)
    (hv : ¬ CountWritten value) : CountProblem raw (.invalidCount raw value)

/-- A known kind of block with a word behind its name that is no value of its table. A word without
characters stands for the value `2`. -/
inductive TileProblem (raw : Text) : Diagnostic → Prop where
  | intro {id word : Text} {words : List Text} {kind : Orientation}
    (h : Worded raw id (word :: words)) (hk : Orientation.ofBlock? id = some kind)
    (ht : authored word ∉ kind.keys) : TileProblem raw (.unknownTile kind (authored word))

section Taken

theorem split_mark (rest : Text) : ∃ id words, Text.split ' ' rest = id :: words ∧
    Text.split ' ' (summonMark :: rest) = ('$' :: id) :: words := by
  obtain ⟨id, words, hw⟩ := List.exists_cons_of_ne_nil (Text.splitWhere_ne_nil (· = ' ') rest)
  refine ⟨id, words, hw, ?_⟩
  rw [Text.split, Text.splitWhere, hw]
  rfl

theorem taken_mark (rest : Text) : taken (summonMark :: rest) =
    takeCount (summonMark :: rest) (Text.split ' ' rest) := by
  simp [taken, cut]

/-- What is taken from a specification, for each of the ways in which it can be worded. -/
theorem taken_cases (raw : Text) :
    (∃ id words, Text.split ' ' raw = id :: words ∧ id.head? ≠ some '$' ∧
      taken raw = (1, id :: words, [])) ∨
    (∃ id value words, Text.split ' ' raw = ('$' :: id) :: ("count:".toList ++ value) :: words ∧
      (taken raw).2 = (id :: words,
        if readCount? value = none then [.invalidCount raw value] else [])) ∨
    (∃ id words, Text.split ' ' raw = ('$' :: id) :: words ∧
      (∀ value more, words ≠ ("count:".toList ++ value) :: more) ∧
      taken raw = (1, id :: words, [])) := by
  by_cases hm : raw.head? = some summonMark
  · obtain ⟨rest, rfl⟩ : ∃ rest, raw = summonMark :: rest := by
      cases raw with
      | nil => simp at hm
      | cons c rest => exact ⟨rest, by simpa using hm⟩
    obtain ⟨id, words, hw, hs⟩ := split_mark rest
    rw [hs, taken_mark, hw]
    right
    cases words with
    | nil => exact .inr ⟨id, [], rfl, by simp, rfl⟩
    | cons second words =>
      cases hc : Text.after? countMark second with
      | none =>
        refine .inr ⟨id, _, rfl, ?_, by simp only [takeCount, hc]⟩
        rintro value more he
        have marked : second = countMark ++ value := (List.cons.inj he).1
        rw [marked, Text.after?_append] at hc
        cases hc
      | some value =>
        refine .inl ⟨id, value, words, by rw [Text.eq_append_of_after? hc]; rfl, ?_⟩
        cases hv : readCount? value <;> simp [takeCount, hc, hv]
  · obtain ⟨id, words, hw⟩ := List.exists_cons_of_ne_nil (Text.splitWhere_ne_nil (· = ' ') raw)
    refine .inl ⟨id, words, hw, ?_, ?_⟩
    · intro mark
      have filled : id ≠ [] := by
        rintro rfl
        cases mark
      have whole := Text.join_split ' ' raw
      rw [Text.split, hw] at whole
      rw [← whole, Text.head?_join [' '] filled] at hm
      exact hm mark
    · rw [taken, cut_of_head? hm, Text.split, hw]
      rfl

theorem split_ne_of_unmarked {raw id : Text} {words : List Text}
    (h : Text.split ' ' raw = id :: words) (hm : id.head? ≠ some '$') (other : Text)
    (more : List Text) : Text.split ' ' raw ≠ ('$' :: other) :: more := by
  intro marked
  rw [h] at marked
  exact hm (by rw [(List.cons.inj marked).1, List.head?_cons])

theorem worded_iff {raw id : Text} {words : List Text} :
    Worded raw id words ↔ (taken raw).2.1 = id :: words := by
  rcases taken_cases raw with ⟨id', words', hs, hm, ht⟩ | ⟨id', value', words', hs, ht⟩ |
    ⟨id', words', hs, hc, ht⟩
  · rw [ht]
    constructor
    · intro worded
      cases worded with
      | block h => exact hs.symm.trans h
      | counted h => exact absurd h (split_ne_of_unmarked hs hm _ _)
      | uncounted h => exact absurd h (split_ne_of_unmarked hs hm _ _)
    · intro h
      obtain ⟨rfl, rfl⟩ := List.cons.inj h
      exact .block hs hm
  · rw [ht]
    constructor
    · intro worded
      cases worded with
      | block h hm => exact absurd hs (split_ne_of_unmarked h hm _ _)
      | counted h =>
        obtain ⟨hid, hw⟩ := List.cons.inj (hs.symm.trans h)
        rw [(List.cons.inj hid).2, (List.cons.inj hw).2]
      | uncounted h hc => exact absurd (List.cons.inj (hs.symm.trans h)).2.symm (hc _ _)
    · intro h
      obtain ⟨rfl, rfl⟩ := List.cons.inj h
      exact .counted hs
  · rw [ht]
    constructor
    · intro worded
      cases worded with
      | block h hm => exact absurd hs (split_ne_of_unmarked h hm _ _)
      | counted h => exact absurd (List.cons.inj (hs.symm.trans h)).2 (hc _ _)
      | uncounted h =>
        obtain ⟨hid, rfl⟩ := List.cons.inj (hs.symm.trans h)
        rw [(List.cons.inj hid).2]
    · intro h
      obtain ⟨rfl, rfl⟩ := List.cons.inj h
      exact .uncounted hs hc

/-- Every specification is worded in one way: by the name and the words that a reading takes. -/
theorem worded_iff_name_tail {raw id : Text} {words : List Text} :
    Worded raw id words ↔ name raw = id ∧ tail raw = words := by
  obtain ⟨first, rest, hw⟩ : ∃ first rest, (taken raw).2.1 = first :: rest := by
    rcases taken_cases raw with ⟨id, words, -, -, ht⟩ | ⟨id, value, words, -, ht⟩ |
      ⟨id, words, -, -, ht⟩ <;> exact ⟨id, words, by rw [ht]⟩
  rw [worded_iff, name, tail, hw, List.cons.injEq]
  rfl

end Taken

theorem reports_taken (raw : Text) : Reports (CountProblem raw) (taken raw).2.2 := by
  rcases taken_cases raw with ⟨id, words, hs, hm, ht⟩ | ⟨id, value, words, hs, ht⟩ |
    ⟨id, words, hs, hc, ht⟩
  · rw [ht]
    refine .none ?_
    rintro _ ⟨h, -⟩
    exact split_ne_of_unmarked hs hm _ _ h
  · have same {id' value' : Text} {words' : List Text}
        (h : Text.split ' ' raw = ('$' :: id') :: ("count:".toList ++ value') :: words') :
        value' = value :=
      (List.append_cancel_left (List.cons.inj (List.cons.inj (hs.symm.trans h)).2).1).symm
    rw [ht]
    dsimp only
    split
    · next unread =>
      refine .one ⟨hs, readCount?_eq_none_iff.1 unread⟩ ?_
      rintro _ ⟨h, -⟩
      rw [same h]
    · next read =>
      refine .none ?_
      rintro _ ⟨h, hv⟩
      rw [same h] at hv
      exact read (readCount?_eq_none_iff.2 hv)
  · rw [ht]
    refine .none ?_
    rintro _ ⟨h, -⟩
    exact absurd (List.cons.inj (hs.symm.trans h)).2 (hc _ _)

theorem reports_turnTile (facing : Facing) (raw : Text) :
    Reports (TileProblem raw) (turnTile (name raw) facing (tail raw)).2 := by
  have worded {id : Text} {words : List Text} (h : Worded raw id words) :=
    worded_iff_name_tail.1 h
  cases hw : tail raw with
  | nil =>
    refine .none ?_
    rintro _ ⟨h, -, -⟩
    cases hw.symm.trans (worded h).2
  | cons word words =>
    cases hk : Orientation.ofBlock? (name raw) with
    | none =>
      rw [turnTile_of_none hk]
      refine .none ?_
      rintro _ ⟨h, known, -⟩
      rw [← (worded h).1, hk] at known
      cases known
    | some kind =>
      have only {id word' : Text} {words' : List Text} {kind' : Orientation}
          (h : Worded raw id (word' :: words')) (known : Orientation.ofBlock? id = some kind') :
          kind' = kind ∧ word' = word := by
        obtain ⟨hid, htail⟩ := worded h
        rw [← hid, hk] at known
        exact ⟨(Option.some.inj known).symm, (List.cons.inj (hw.symm.trans htail)).1.symm⟩
      rw [turnTile_of_some hk]
      dsimp only
      split
      · next known =>
        refine .none ?_
        rintro _ ⟨h, hkind, unknown⟩
        obtain ⟨rfl, rfl⟩ := only h hkind
        exact unknown known
      · next unknown =>
        refine .one ⟨worded_iff_name_tail.2 ⟨rfl, hw⟩, hk, unknown⟩ ?_
        rintro _ ⟨h, hkind, -⟩
        obtain ⟨rfl, rfl⟩ := only h hkind
        rfl

/-- A reading reports the problem of the count, if there is one, and then that of the tile data. -/
theorem reports_read (settings : Settings) (facing : Facing) (raw : Text) :
    ∃ counts tiles, (read settings facing raw).2 = counts ++ tiles ∧
      Reports (CountProblem raw) counts ∧ Reports (TileProblem raw) tiles :=
  ⟨_, _, rfl, reports_taken raw, reports_turnTile facing raw⟩

end Spec
end VoxelTemplate
