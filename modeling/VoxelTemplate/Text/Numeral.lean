import VoxelTemplate.Text.Basic
/-! Decimal numerals: reading digits with an optional sign, and writing whole numbers. -/
namespace VoxelTemplate.Numeral

/-- The value of a non-empty run of decimal digits. -/
def digits? (text : Text) : Option Nat :=
  if !text.isEmpty && text.all Char.isDigit then some (Nat.ofDigitChars 10 text 0) else none

def unsigned? : Text → Option Nat
  | '+' :: text => digits? text
  | text => digits? text

def signed? : Text → Option Int
  | '-' :: text => (digits? text).map fun n => -(n : Int)
  | text => (unsigned? text).map fun n => (n : Int)

/-- Decimal digits without leading zeros. -/
def ofNat (n : Nat) : Text := Nat.toDigits 10 n

def ofInt : Int → Text
  | .ofNat n => ofNat n
  | .negSucc n => '-' :: ofNat (n + 1)

theorem digits?_ofNat (n : Nat) : digits? (ofNat n) = some n := by
  have hne : ofNat n ≠ [] := by
    intro h
    have := Nat.length_toDigits_pos (b := 10) (n := n)
    rw [show Nat.toDigits 10 n = [] from h] at this
    simp at this
  have hall : (ofNat n).all Char.isDigit = true := by
    simp only [List.all_eq_true]
    intro c hc
    exact Nat.isDigit_of_mem_toDigits (by omega) (by omega) hc
  have hval : Nat.ofDigitChars 10 (ofNat n) 0 = n :=
    Nat.ofDigitChars_toDigits (by omega) (by omega)
  simp [digits?, hall, hval, hne]

end VoxelTemplate.Numeral
