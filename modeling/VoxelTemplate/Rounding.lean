/-! Whole numbers kept with 53 binary digits: a number that needs more goes to the nearest one that
does not, and a tie to the one whose last kept digit is even. -/
namespace VoxelTemplate.Rounding

/-- The multiple of `unit` nearest to `n`, ties to an even multiple. -/
def toMultiple (unit n : Nat) : Nat :=
  let quotient := n / unit
  let rest := n % unit
  if unit < 2 * rest || (2 * rest = unit && quotient % 2 = 1) then (quotient + 1) * unit
  else quotient * unit

/-- `n` with 53 binary digits. -/
def nat (n : Nat) : Nat :=
  if n < 0x20000000000000 then n else toMultiple (Nat.pow 2 (n.log2 - 52)) n

/-- The sign stays, the rest is as for natural numbers. -/
def int : Int → Int
  | .ofNat n => nat n
  | .negSucc n => -(nat (n + 1) : Int)

theorem nat_of_lt {n : Nat} (h : n < 0x20000000000000) : nat n = n := by
  simp only [nat, h, ↓reduceIte]

theorem nat_of_le {n : Nat} (h : n ≤ 0x20000000000000) : nat n = n := by
  rcases Nat.lt_or_eq_of_le h with h | rfl
  · exact nat_of_lt h
  · decide +kernel

/-- Numbers of at most 53 binary digits stay as they are. -/
theorem int_of_natAbs_le {n : Int} (h : n.natAbs ≤ 0x20000000000000) : int n = n := by
  cases n with
  | ofNat n =>
    have h' : n ≤ 0x20000000000000 := h
    simp [int, nat_of_le h']
  | negSucc n =>
    have h' : n + 1 ≤ 0x20000000000000 := h
    simp only [int, nat_of_le h']
    omega

theorem div_mul_le_toMultiple (unit n : Nat) : n / unit * unit ≤ toMultiple unit n := by
  unfold toMultiple
  dsimp only
  split
  · exact Nat.mul_le_mul_right unit (Nat.le_succ _)
  · exact Nat.le_refl _

/-- A number of more than 53 binary digits keeps its leading digit. -/
theorem le_nat {n : Nat} (h : 0x20000000000000 ≤ n) : 0x20000000000000 ≤ nat n := by
  have hne : n ≠ 0 := by omega
  have digits : 53 ≤ n.log2 := (Nat.le_log2 hne).2 h
  have kept : 2 ^ 52 ≤ n / 2 ^ (n.log2 - 52) := by
    rw [Nat.le_div_iff_mul_le (Nat.two_pow_pos _), ← Nat.pow_add]
    calc 2 ^ (52 + (n.log2 - 52)) = 2 ^ n.log2 := by congr 1; omega
      _ ≤ n := Nat.log2_self_le hne
  have unit : 2 ^ 1 ≤ 2 ^ (n.log2 - 52) := Nat.pow_le_pow_right (by decide) (by omega)
  rw [nat, if_neg (by omega)]
  calc 0x20000000000000 = 2 ^ 52 * 2 ^ 1 := by decide
    _ ≤ n / 2 ^ (n.log2 - 52) * 2 ^ (n.log2 - 52) := Nat.mul_le_mul kept unit
    _ ≤ toMultiple (2 ^ (n.log2 - 52)) n := div_mul_le_toMultiple _ n

theorem int_neg (n : Int) : int (-n) = -int n := by
  cases n with
  | ofNat n =>
    cases n with
    | zero => rfl
    | succ n => rfl
  | negSucc n =>
    rw [Int.neg_negSucc]
    exact (Int.neg_neg _).symm

theorem min_le_int {n : Int} (h : 0 ≤ n) : min n 0x20000000000000 ≤ int n := by
  obtain ⟨n, rfl⟩ := Int.eq_ofNat_of_zero_le h
  show _ ≤ (nat n : Int)
  rcases Nat.lt_or_ge n 0x20000000000000 with hn | hn
  · rw [nat_of_lt hn]; omega
  · have := le_nat hn; omega

end VoxelTemplate.Rounding
