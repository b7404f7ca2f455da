import Mathlib.Tactic.SplitIfs
import Mathlib.Tactic.ByContra
import VoxelTemplate.Text.Basic

/-! The order of texts by code points is the order of their UTF-8 forms. -/
namespace VoxelTemplate.Text

/-- The UTF-8 form of a text. -/
def bytes (text : Text) : List UInt8 := text.flatMap String.utf8EncodeChar

/-- Whether a byte string is before another is settled within the first characters that differ:
none of the two begins with the other, and the one with the smaller code point is smaller. -/
theorem utf8EncodeChar_append_lt {c d : Char} (h : c < d) (rest rest' : List UInt8) :
    String.utf8EncodeChar c ++ rest < String.utf8EncodeChar d ++ rest' := by
  have lt : c.val.toNat < d.val.toNat := h
  have bound : d.val.toNat < 0x110000 := by
    have := d.valid
    simp only [UInt32.isValidChar, Nat.isValidChar] at this
    omega
  have twice (n : Nat) : n / 4096 = n / 64 / 64 := by omega
  have thrice (n : Nat) : n / 262144 = n / 64 / 64 / 64 := by omega
  unfold String.utf8EncodeChar
  dsimp only
  split_ifs <;>
    simp only [List.cons_append, List.nil_append, List.cons_lt_cons_iff, UInt8.lt_iff_toNat_lt,
      ← UInt8.toNat_inj, UInt8.toNat_ofNat', twice, thrice] <;>
    omega

@[simp] theorem bytes_cons (c : Char) (text : Text) :
    bytes (c :: text) = String.utf8EncodeChar c ++ bytes text := List.flatMap_cons

@[simp] theorem bytes_append (a b : Text) : bytes (a ++ b) = bytes a ++ bytes b :=
  List.flatMap_append

@[simp] theorem length_bytes (text : Text) : (bytes text).length = byteSize text := by
  induction text with
  | nil => rfl
  | cons c text ih =>
    rw [bytes_cons, List.length_append, String.length_utf8EncodeChar, ih, byteSize_cons]

/-- Only an ASCII character itself has its code as its first byte. -/
theorem head?_utf8EncodeChar_iff {c d : Char} (ascii : d.toNat < 128) :
    (String.utf8EncodeChar c).head? = some d.toUInt8 ↔ c = d := by
  have code : d.val.toNat < 128 := ascii
  have same : c = d ↔ c.val.toNat = d.val.toNat := by rw [← Char.val_inj, UInt32.toNat_inj]
  rw [same]
  unfold String.utf8EncodeChar
  dsimp only
  split_ifs <;>
    simp only [List.head?_cons, Option.some.injEq, ← UInt8.toNat_inj, UInt8.toNat_ofNat',
      Char.toUInt8, UInt32.toNat_toUInt8] <;>
    omega

theorem bytes_lt_of_lt {a b : Text} (h : a < b) : bytes a < bytes b := by
  induction a generalizing b with
  | nil =>
    cases b with
    | nil => exact absurd h (List.lt_irrefl [])
    | cons d b =>
      have first : String.utf8EncodeChar d ≠ [] := String.utf8EncodeChar_ne_nil
      obtain ⟨byte, rest, he⟩ := List.exists_cons_of_ne_nil first
      rw [bytes_cons, he]
      exact List.nil_lt_cons ..
  | cons c a ih =>
    cases b with
    | nil => exact absurd h (List.not_lt_nil _)
    | cons d b =>
      rw [bytes_cons, bytes_cons]
      rcases List.cons_lt_cons_iff.1 h with lt | ⟨rfl, lt⟩
      · exact utf8EncodeChar_append_lt lt _ _
      · exact List.append_left_lt (ih lt)

/-- UTF-8 forms stand in the order of their texts. -/
theorem bytes_lt_iff {a b : Text} : bytes a < bytes b ↔ a < b := by
  refine ⟨fun h => ?_, bytes_lt_of_lt⟩
  by_contra hn
  rcases List.le_iff_lt_or_eq.1 (List.not_lt.1 hn) with lt | rfl
  · exact List.lt_asymm h (bytes_lt_of_lt lt)
  · exact List.lt_irrefl _ h

end VoxelTemplate.Text
