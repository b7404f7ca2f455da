import VoxelTemplate.Proofs.Spec.Opposite
import VoxelTemplate.Proofs.Spec.Problems
import VoxelTemplate.Proofs.Template.Said

/-! What facing north keeps of a block as it was written. A block without a table keeps all its
words and spaces. A table reads one word and what it knows of that word stays; the words behind it
are dropped, and no report tells of them. -/
namespace VoxelTemplate

/-- A last word has characters where the text ends in one that is not blank. -/
theorem Text.ne_nil_of_trim_eq {text first last : Text} (trimmed : trim text = text)
    (h : split ' ' text = [first, last]) : last ≠ [] := by
  rintro rfl
  have whole : first ++ [' '] = text := by
    rw [← join_split ' ' text, h]
    simp [join]
  have filled : text ≠ [] := by
    rw [← whole]
    simp
  obtain ⟨front, c, hl, hc⟩ := (Solid.of_trim_eq trimmed filled).last
  rw [← whole] at hl
  obtain ⟨-, hlast⟩ := List.append_inj' hl rfl
  obtain rfl : ' ' = c := List.head_eq_of_cons_eq hlast
  revert hc
  decide

namespace Spec

/-- The text comes out of a reading as it went in, or the reading has something to report. -/
def Accounted (settings : Settings) (raw : Text) : Prop :=
  (read settings .north raw).2 ≠ [] ∨ named settings .north raw = raw

/-- A block with a table, and at least one word more than the one that the table reads and knows.
The text is shortened to the name and that word. -/
inductive Shortened (raw : Text) : Text → Prop where
  | intro {id word next : Text} {more : List Text} {kind : Orientation}
    (h : Text.split ' ' raw = id :: word :: next :: more)
    (hk : Orientation.ofBlock? id = some kind) (ht : authored word ∈ kind.keys) :
    Shortened raw (id ++ ' ' :: authored word)

section Block

variable {raw : Text} (mark : raw.head? ≠ some '$') (settings : Settings) (facing : Facing)
include mark

theorem named_alone {id : Text} (h : Text.split ' ' raw = [id]) :
    named settings facing raw = raw := by
  rw [named, read_block mark settings facing h]
  exact (congrArg (Text.join [' ']) h).symm.trans (Text.join_split ' ' raw)

/-- Words behind a name without a table stay as they are, for every facing. -/
theorem named_of_none {id : Text} {words : List Text} (h : Text.split ' ' raw = id :: words)
    (hk : Orientation.ofBlock? id = none) : named settings facing raw = raw := by
  cases words with
  | nil => exact named_alone mark settings facing h
  | cons word words =>
    have whole := Text.join_split ' ' raw
    rw [h, Text.join_cons_cons] at whole
    rw [named, read_block mark settings facing h, turnTile_of_none hk]
    exact whole

/-- Of the words behind a name with a table, the first is turned and the others are dropped. -/
theorem named_of_some {id word : Text} {words : List Text} {kind : Orientation}
    (h : Text.split ' ' raw = id :: word :: words) (hk : Orientation.ofBlock? id = some kind) :
    named settings facing raw = id ++ ' ' :: kind.turn (authored word) facing ∧
      ((read settings facing raw).2 = [] ↔ authored word ∈ kind.keys) := by
  rw [named, read_block mark settings facing h, turnTile_of_some hk]
  refine ⟨rfl, ?_⟩
  dsimp only
  split <;> simp [*]

end Block

/-- What is left of a shortened text has fewer spaces, and nothing is reported. -/
theorem Shortened.named_eq {raw kept : Text} (h : Shortened raw kept) (mark : raw.head? ≠ some '$')
    (settings : Settings) :
    named settings .north raw = kept ∧ (read settings .north raw).2 = [] ∧ kept ≠ raw := by
  obtain ⟨hs, hk, ht⟩ := h
  obtain ⟨called, silent⟩ := named_of_some mark settings .north hs hk
  rw [Orientation.turn_north ht] at called
  refine ⟨called, silent.2 ht, ?_⟩
  intro same
  have whole := Text.join_split ' ' raw
  rw [hs, Text.join_cons_cons, Text.join_cons_cons] at whole
  have word := (List.cons.inj (List.append_cancel_left (whole.trans same.symm))).2
  have space : ' ' ∉ authored _ := (Orientation.eq_singleton_of_mem_keys ht).1
  rw [← word] at space
  simp at space

/-- A trimmed block is accounted for unless it is shortened: that is, unless its name has a table
and two words or more stand behind the name, the first of which the table knows. The name and that
word are all that comes out then, without a report. -/
theorem accounted_iff {raw : Text} (trimmed : Text.trim raw = raw) (mark : raw.head? ≠ some '$')
    (settings : Settings) :
    (Accounted settings raw ↔ ¬ ∃ kept, Shortened raw kept) ∧
      ∀ kept, Shortened raw kept →
        named settings .north raw = kept ∧ (read settings .north raw).2 = [] := by
  refine ⟨⟨?_, ?_⟩, fun kept h => ⟨(h.named_eq mark settings).1, (h.named_eq mark settings).2.1⟩⟩
  · rintro accounted ⟨kept, h⟩
    obtain ⟨called, silent, other⟩ := h.named_eq mark settings
    rcases accounted with told | same
    · exact told silent
    · exact other (called.symm.trans same)
  · intro whole
    obtain ⟨id, words, hs⟩ : ∃ id words, Text.split ' ' raw = id :: words :=
      List.exists_cons_of_ne_nil (Text.splitWhere_ne_nil _ raw)
    cases hk : Orientation.ofBlock? id with
    | none => exact .inr (named_of_none mark settings .north hs hk)
    | some kind =>
      cases words with
      | nil => exact .inr (named_alone mark settings .north hs)
      | cons word words =>
        obtain ⟨called, silent⟩ := named_of_some mark settings .north hs hk
        by_cases known : authored word ∈ kind.keys
        · cases words with
          | nil =>
            have filled : authored word = word := by
              simp [authored, Text.ne_nil_of_trim_eq trimmed hs]
            rw [Orientation.turn_north known, filled] at called
            have back := Text.join_split ' ' raw
            rw [hs, Text.join_cons_cons] at back
            exact .inr (called.trans back)
          | cons next more => exact absurd ⟨_, .intro hs hk known⟩ whole
        · exact .inl fun none => known (silent.1 none)

/-- Two specifications as a template keeps them: many words and spaces behind a name without a table,
and a tile value that is reported as unknown. -/
theorem accounted_iff_porch :
    let source := Text.ofLines ["a= wool  14 x  y ", "b = chest 9 open", " a b"]
    let wool := "wool  14 x  y".toList
    let chest := "chest 9 open".toList
    ∃ template, Template.parse source = .ok template ∧
      (template.spec? "a".toList = some wool ∧ Text.trim wool = wool ∧ wool.head? ≠ some '$' ∧
        Accounted .default wool) ∧
      template.spec? "b".toList = some chest ∧ Text.trim chest = chest ∧ chest.head? ≠ some '$' ∧
        Accounted .default chest := by
  intro source wool chest
  let template := Template.ofLines (Line.ofSource source)
  have parsed : Template.parse source = .ok template := by decide +kernel
  have first : template.spec? "a".toList = some wool := by decide +kernel
  have second : template.spec? "b".toList = some chest := by decide +kernel
  have wool_whole : ¬ ∃ kept, Shortened wool kept := by
    rintro ⟨_, ⟨hs, hk, -⟩⟩
    have id := (List.cons.inj (show "wool".toList :: _ = _ :: _ from hs)).1
    rw [← id, show Orientation.ofBlock? "wool".toList = none by decide] at hk
    cases hk
  have chest_whole : ¬ ∃ kept, Shortened chest kept := by
    rintro ⟨_, ⟨hs, hk, ht⟩⟩
    obtain ⟨id, more⟩ := List.cons.inj (show "chest".toList :: ['9'] :: _ = _ :: _ from hs)
    rw [← id, show Orientation.ofBlock? "chest".toList = some .chest by decide] at hk
    rw [← (List.cons.inj more).1, ← Option.some.inj hk] at ht
    revert ht
    decide
  have wool_trimmed := Template.trim_of_spec? parsed first
  have chest_trimmed := Template.trim_of_spec? parsed second
  have wool_mark : wool.head? ≠ some '$' := by decide
  have chest_mark : chest.head? ≠ some '$' := by decide
  exact ⟨template, parsed,
    ⟨first, wool_trimmed, wool_mark, (accounted_iff wool_trimmed wool_mark .default).1.2 wool_whole⟩,
    second, chest_trimmed, chest_mark,
    (accounted_iff chest_trimmed chest_mark .default).1.2 chest_whole⟩

/-- A word behind the tile data of stairs is dropped, and so is the tile data behind a second
space. -/
theorem third_word_dropped :
    let raw := "oak_stairs 3 top".toList
    let wide := "oak_stairs  3".toList
    Text.trim raw = raw ∧ raw.head? ≠ some '$' ∧
      named .default .north raw = "oak_stairs 3".toList ∧ (read .default .north raw).2 = [] ∧
      ¬ Accounted .default raw ∧
    Text.trim wide = wide ∧ wide.head? ≠ some '$' ∧
      named .default .north wide = "oak_stairs 2".toList ∧ (read .default .north wide).2 = [] ∧
      ¬ Accounted .default wide := by
  unfold Accounted
  decide

end Spec
end VoxelTemplate
