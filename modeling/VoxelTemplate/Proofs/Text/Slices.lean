import VoxelTemplate.Template.Lexeme

/-! Parts of a text, cut out at bytes of its UTF-8 form. A cut goes between characters or it is
refused, so a slice is exactly what stands between its bytes. -/
namespace VoxelTemplate.Text

/-- The two sides of the place behind so many bytes, unless a character has that place inside. -/
def splitBytes? (bytes : Nat) : Text → Option (Text × Text)
  | [] => if bytes = 0 then some ([], []) else none
  | c :: text =>
    if bytes = 0 then some ([], c :: text)
    else if c.utf8Size ≤ bytes then
      (splitBytes? (bytes - c.utf8Size) text).map fun (left, right) => (c :: left, right)
    else none

/-- The part of a text that a span takes. -/
def slice? (text : Text) (span : Span) : Option Text :=
  if span.start ≤ span.stop then
    (splitBytes? span.start text).bind fun sides =>
      (splitBytes? (span.stop - span.start) sides.2).map Prod.fst
  else none

theorem splitBytes?_append (left right : Text) :
    splitBytes? (byteSize left) (left ++ right) = some (left, right) := by
  induction left with
  | nil => cases right <;> rfl
  | cons c left ih =>
    have := c.utf8Size_pos
    rw [List.cons_append, splitBytes?, byteSize_cons, if_neg (by omega), if_pos (by omega),
      Nat.add_sub_cancel_left, ih]
    rfl

theorem of_splitBytes? {bytes : Nat} {text left right : Text}
    (h : splitBytes? bytes text = some (left, right)) :
    text = left ++ right ∧ bytes = byteSize left := by
  induction text generalizing bytes left with
  | nil =>
    rw [splitBytes?] at h
    split at h
    · next none =>
      obtain ⟨rfl, rfl⟩ := Prod.mk.inj (Option.some.inj h)
      exact ⟨rfl, none⟩
    · contradiction
  | cons c text ih =>
    rw [splitBytes?] at h
    split at h
    · next none =>
      obtain ⟨rfl, rfl⟩ := Prod.mk.inj (Option.some.inj h)
      exact ⟨rfl, none⟩
    · split at h
      · next fits =>
        obtain ⟨⟨front, _⟩, hs, he⟩ := Option.map_eq_some_iff.1 h
        obtain ⟨rfl, rfl⟩ := Prod.mk.inj he
        obtain ⟨rfl, size⟩ := ih hs
        refine ⟨rfl, ?_⟩
        rw [byteSize_cons]
        omega
      · contradiction

/-- A slice is what it says: its text stands there, between two characters. -/
theorem slice?_eq_some_iff {text piece : Text} {span : Span} :
    text.slice? span = some piece ↔ ∃ before after, text = before ++ (piece ++ after) ∧
      span = ⟨byteSize before, byteSize before + byteSize piece⟩ := by
  constructor
  · intro h
    unfold slice? at h
    split at h
    · next ordered =>
      obtain ⟨⟨before, rest⟩, hb, h⟩ := Option.bind_eq_some_iff.1 h
      obtain ⟨⟨_, after⟩, hp, rfl⟩ := Option.map_eq_some_iff.1 h
      obtain ⟨rfl, start⟩ := of_splitBytes? hb
      obtain ⟨rfl, size⟩ := of_splitBytes? hp
      refine ⟨before, after, rfl, ?_⟩
      rw [← start, ← size, Nat.add_sub_cancel' ordered]
    · contradiction
  · rintro ⟨before, after, rfl, rfl⟩
    rw [slice?, if_pos (Nat.le_add_right ..), splitBytes?_append, Option.bind_some,
      Nat.add_sub_cancel_left, splitBytes?_append]
    rfl

end VoxelTemplate.Text
