import VoxelTemplate.Proofs.Text.Cuts
import VoxelTemplate.Template.Line

/-! The classes of lines, said without a reader: each class by what its lines look like, with the
lines of all earlier classes left out. The reader decides exactly this relation. -/
namespace VoxelTemplate

namespace Text

theorem splitFirst?_eq_none_iff {sep : Char} {text : Text} :
    splitFirst? sep text = none ↔ sep ∉ text := by
  induction text with
  | nil => simp [splitFirst?]
  | cons c text ih =>
    by_cases hc : c = sep
    · simp [splitFirst?, hc]
    · simp [splitFirst?, hc, Ne.symm hc, ih]

theorem after?_eq_some_iff {lead text rest : Text} :
    after? lead text = some rest ↔ text = lead ++ rest :=
  ⟨eq_append_of_after?, fun h => h ▸ after?_append lead rest⟩

theorem after?_eq_none_iff {lead text : Text} :
    after? lead text = none ↔ ¬ ∃ rest, text = lead ++ rest := by
  rw [Option.eq_none_iff_forall_ne_some]
  simp only [ne_eq, after?_eq_some_iff, not_exists]

end Text

namespace Line

/-- Nothing but blanks, or a comment after them. -/
def Silent (line : Text) : Prop :=
  Text.trim line = [] ∨ (Text.trim line).head? = some '#'

/-- What a line says. Silent lines come before all others, definitions before layers and
directives. -/
inductive Says : Text → Line → Prop where
  | comment {line : Text} (hs : Silent line) : Says line .comment
  | definition {line key spec : Text} (hs : ¬ Silent line) (hl : line = key ++ '=' :: spec)
      (hk : '=' ∉ key) : Says line (.definition (Text.trim key) (Text.trim spec))
  | layer {line : Text} (hs : ¬ Silent line) (he : '=' ∉ line) (hl : line.head? = some ' ') :
      Says line (.layer (Text.trim line))
  | offset {line body : Text} (hs : ¬ Silent line) (he : '=' ∉ line)
      (hl : line = "> offset ".toList ++ body) : Says line (.offset body)
  | base {line body : Text} (hs : ¬ Silent line) (he : '=' ∉ line)
      (hl : line = "> base ".toList ++ body) : Says line (.base body)
  | ignored {line : Text} (hs : ¬ Silent line) (he : '=' ∉ line) (hl : line.head? ≠ some ' ')
      (ho : ¬ ∃ body, line = "> offset ".toList ++ body)
      (hb : ¬ ∃ body, line = "> base ".toList ++ body) : Says line .ignored

theorem read_eq_comment_of_silent {line : Text} (h : Silent line) : read line = .comment := by
  rcases h with h | h <;> simp [read, h]

theorem read_of_not_silent {line : Text} (h : ¬ Silent line) :
    read line = match Text.splitFirst? '=' line with
      | some (key, spec) => definition (Text.trim key) (Text.trim spec)
      | none =>
        if line.head? = some ' ' then layer (Text.trim line)
        else match Text.after? offsetMark line with
          | some body => offset body
          | none => match Text.after? baseMark line with
            | some body => base body
            | none => ignored := by
  have spoken : ((Text.trim line).isEmpty || (Text.trim line).head? = some '#') = false := by
    simpa [Silent] using h
  show (if (Text.trim line).isEmpty || (Text.trim line).head? = some '#' then comment else _) = _
  exact if_neg (by simp [spoken])

theorem says_read (line : Text) : Says line (read line) := by
  by_cases hs : Silent line
  · rw [read_eq_comment_of_silent hs]
    exact .comment hs
  rw [read_of_not_silent hs]
  cases he : Text.splitFirst? '=' line with
  | some sides =>
    obtain ⟨hl, hk⟩ := Text.eq_of_splitFirst? he
    exact .definition hs hl hk
  | none =>
    have he := Text.splitFirst?_eq_none_iff.1 he
    by_cases hl : line.head? = some ' '
    · simp only [hl, ↓reduceIte]
      exact .layer hs he hl
    simp only [hl, ↓reduceIte]
    cases ho : Text.after? offsetMark line with
    | some body => exact .offset hs he (Text.after?_eq_some_iff.1 ho)
    | none =>
      cases hb : Text.after? baseMark line with
      | some body => exact .base hs he (Text.after?_eq_some_iff.1 hb)
      | none => exact .ignored hs he hl (Text.after?_eq_none_iff.1 ho) (Text.after?_eq_none_iff.1 hb)

theorem Says.read_eq {line : Text} {a : Line} (h : Says line a) : read line = a := by
  cases h with
  | comment hs => exact read_eq_comment_of_silent hs
  | definition hs hl hk =>
    rw [read_of_not_silent hs, hl, Text.splitFirst?_append hk]
  | layer hs he hl =>
    rw [read_of_not_silent hs, Text.splitFirst?_eq_none_iff.2 he]
    simp only [hl, ↓reduceIte]
  | offset hs he hl =>
    rw [read_of_not_silent hs, Text.splitFirst?_eq_none_iff.2 he,
      Text.after?_eq_some_iff.2 (show line = offsetMark ++ _ from hl), hl]
    rfl
  | base hs he hl =>
    have ho : Text.after? offsetMark line = none := by rw [hl]; rfl
    rw [read_of_not_silent hs, Text.splitFirst?_eq_none_iff.2 he, ho,
      Text.after?_eq_some_iff.2 (show line = baseMark ++ _ from hl), hl]
    rfl
  | ignored hs he hl ho hb =>
    rw [read_of_not_silent hs, Text.splitFirst?_eq_none_iff.2 he,
      Text.after?_eq_none_iff.2 (show ¬ ∃ body, line = offsetMark ++ body from ho),
      Text.after?_eq_none_iff.2 (show ¬ ∃ body, line = baseMark ++ body from hb)]
    simp only [hl, ↓reduceIte]

/-- A line says one thing, the one that the reader takes from it. -/
theorem says_iff {line : Text} {a : Line} : Says line a ↔ read line = a :=
  ⟨Says.read_eq, fun h => h ▸ says_read line⟩

section Marks

variable {line body row : Text}

/-- The mark of a directive is not blank and does not begin a comment. -/
theorem not_silent_directive {rest : Text} (h : line = '>' :: rest) : ¬ Silent line := by
  have first : (Text.trim line).head? = some '>' := by
    rw [h, Text.head?_trim]
    rfl
  rintro (blank | comment)
  · simp [blank] at first
  · cases first.symm.trans comment

theorem says_offset_iff :
    Says line (.offset body) ↔ line = "> offset ".toList ++ body ∧ '=' ∉ line := by
  constructor
  · intro said
    cases said with
    | offset _ he hl => exact ⟨hl, he⟩
  · intro ⟨hl, he⟩
    exact .offset (not_silent_directive hl) he hl

theorem says_base_iff :
    Says line (.base body) ↔ line = "> base ".toList ++ body ∧ '=' ∉ line := by
  constructor
  · intro said
    cases said with
    | base _ he hl => exact ⟨hl, he⟩
  · intro ⟨hl, he⟩
    exact .base (not_silent_directive hl) he hl

theorem says_layer_iff : Says line (.layer row) ↔
    line.head? = some ' ' ∧ '=' ∉ line ∧ Text.Core line row ∧ row.head? ≠ some '#' := by
  constructor
  · intro said
    cases said with
    | layer hs he hl =>
      rw [Silent, not_or] at hs
      exact ⟨hl, he, Text.core_iff.2 ⟨rfl, hs.1⟩, hs.2⟩
  · intro ⟨hl, he, core, mark⟩
    obtain ⟨rfl, spoken⟩ := Text.core_iff.1 core
    exact .layer (not_or.2 ⟨spoken, mark⟩) he hl

end Marks

end Line
end VoxelTemplate
