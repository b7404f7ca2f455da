/-! Text as a list of characters: cutting, joining and measuring it. -/
namespace VoxelTemplate

abbrev Text := List Char

namespace Text

/-- The text without `lead` at its start, if it starts so. -/
def after? : (lead : Text) → Text → Option Text
  | [], text => some text
  | _ :: _, [] => none
  | a :: lead, c :: text => if a = c then after? lead text else none

/-- The two sides of the first `sep`, which belongs to neither. -/
def splitFirst? (sep : Char) : Text → Option (Text × Text)
  | [] => none
  | c :: text =>
    if c = sep then some ([], text)
    else (splitFirst? sep text).map fun (left, right) => (c :: left, right)

/-- The first piece grows by one character at its start. -/
def consFirst (c : Char) : List Text → List Text
  | [] => [[c]]
  | piece :: pieces => (c :: piece) :: pieces

/-- Cuts at every character that is `sep`; the pieces may be empty, and there is at least one. -/
def splitWhere (sep : Char → Bool) : Text → List Text
  | [] => [[]]
  | c :: text => if sep c then [] :: splitWhere sep text else consFirst c (splitWhere sep text)

def split (sep : Char) : Text → List Text := splitWhere (· = sep)

/-- Cuts at every three spaces in a row, taken from the left. -/
def splitTripleSpace : Text → List Text
  | [] => [[]]
  | ' ' :: ' ' :: ' ' :: text => [] :: splitTripleSpace text
  | c :: text => consFirst c (splitTripleSpace text)

/-- The pieces one after the other, with `sep` between neighbours. -/
def join (sep : Text) : List Text → Text
  | [] => []
  | [piece] => piece
  | piece :: next :: pieces => piece ++ sep ++ join sep (next :: pieces)

/-- Lines, each with a line feed at its end. -/
def ofLines (lines : List String) : Text := lines.flatMap fun line => line.toList ++ ['\n']

def contains (needle : Text) : Text → Bool
  | [] => needle.isEmpty
  | c :: text => needle.isPrefixOf (c :: text) || contains needle text

/-- Size in bytes of the UTF-8 form. -/
def byteSize : Text → Nat
  | [] => 0
  | c :: text => c.utf8Size + byteSize text

/-- Letters `A` to `Z` become small; all other characters stay. -/
def toLowerAscii (text : Text) : Text := text.map Char.toLower

@[simp] theorem after?_nil (text : Text) : after? [] text = some text := rfl

theorem after?_append (lead text : Text) : after? lead (lead ++ text) = some text := by
  induction lead with
  | nil => rfl
  | cons a lead ih => simp [after?, ih]

theorem eq_append_of_after? {lead text rest : Text} (h : after? lead text = some rest) :
    text = lead ++ rest := by
  induction lead generalizing text with
  | nil => simpa [after?] using h
  | cons a lead ih =>
    cases text with
    | nil => simp [after?] at h
    | cons c text =>
      by_cases hc : a = c
      · subst hc; simpa using ih (by simpa [after?] using h)
      · simp [after?, hc] at h

theorem eq_of_splitFirst? {sep : Char} {text left right : Text}
    (h : splitFirst? sep text = some (left, right)) : text = left ++ sep :: right ∧ sep ∉ left := by
  induction text generalizing left with
  | nil => simp [splitFirst?] at h
  | cons c text ih =>
    by_cases hc : c = sep
    · subst hc
      simp only [splitFirst?, ↓reduceIte, Option.some.injEq, Prod.mk.injEq] at h
      obtain ⟨rfl, rfl⟩ := h
      simp
    · simp only [splitFirst?, hc, ↓reduceIte, Option.map_eq_some_iff, Prod.mk.injEq,
        Prod.exists] at h
      obtain ⟨l, r, hs, rfl, rfl⟩ := h
      obtain ⟨rfl, hl⟩ := ih hs
      exact ⟨by simp, by simp [hl, Ne.symm hc]⟩

theorem splitFirst?_append {sep : Char} {left : Text} (h : sep ∉ left) (right : Text) :
    splitFirst? sep (left ++ sep :: right) = some (left, right) := by
  induction left with
  | nil => simp [splitFirst?]
  | cons c left ih =>
    simp only [List.mem_cons, not_or] at h
    simp [splitFirst?, Ne.symm h.1, ih h.2]

theorem splitWhere_ne_nil (sep : Char → Bool) (text : Text) : splitWhere sep text ≠ [] := by
  cases text with
  | nil => simp [splitWhere]
  | cons c text =>
    simp only [splitWhere]
    split
    · simp
    · cases splitWhere sep text <;> simp [consFirst]

theorem contains_iff_infix {needle text : Text} : contains needle text = true ↔ needle <:+: text := by
  induction text with
  | nil => simp [contains]
  | cons c text ih =>
    rw [contains, Bool.or_eq_true, List.isPrefixOf_iff_prefix, ih, List.infix_cons_iff]

@[simp] theorem byteSize_nil : byteSize [] = 0 := rfl

@[simp] theorem byteSize_cons (c : Char) (text : Text) :
    byteSize (c :: text) = c.utf8Size + byteSize text := rfl

@[simp] theorem byteSize_append (a b : Text) : byteSize (a ++ b) = byteSize a + byteSize b := by
  induction a with
  | nil => simp
  | cons c a ih => rw [List.cons_append, byteSize_cons, byteSize_cons, ih, Nat.add_assoc]

theorem byteSize_pos {text : Text} (h : text ≠ []) : 0 < byteSize text := by
  obtain ⟨c, rest, rfl⟩ := List.exists_cons_of_ne_nil h
  rw [byteSize_cons]
  exact Nat.lt_of_lt_of_le c.utf8Size_pos (Nat.le_add_right ..)

end Text
end VoxelTemplate
