import VoxelTemplate.Proofs.Text.Decimal

/-! Numbers as they are written: a literal, which reads back as the number that it was. -/
namespace VoxelTemplate

namespace Numeral

theorem isDigit_of_mem_ofNat {n : Nat} {c : Char} (h : c ∈ ofNat n) : c.isDigit = true :=
  (digits?_eq_some_iff.1 (digits?_ofNat n)).isDigit c h

theorem ofNat_injective {a b : Nat} (h : ofNat a = ofNat b) : a = b := by
  have value := congrArg digits? h
  rw [digits?_ofNat, digits?_ofNat] at value
  exact Option.some.inj value

theorem literal_ofInt (n : Int) : Literal (ofInt n) n := by
  cases n with
  | ofNat n => exact .plain (digits?_eq_some_iff.1 (digits?_ofNat n))
  | negSucc n => exact .minus (digits?_eq_some_iff.1 (digits?_ofNat (n + 1)))

theorem signed?_ofInt (n : Int) : signed? (ofInt n) = some n :=
  signed?_eq_some_iff.2 (literal_iff.1 (literal_ofInt n)).1

end Numeral

namespace Coord

theorem literal_toText (a : Coord) : Numeral.Literal a.toText a.val := Numeral.literal_ofInt a.val

theorem read?_toText (a : Coord) : read? a.toText = some a := by
  rw [read?, toText, Numeral.signed?_ofInt, Option.bind_some, ofInt?_val]

end Coord
end VoxelTemplate
