import VoxelTemplate.Text.Numeral
/-! Coordinates of a world: whole numbers of 32 bits. Sums that leave the range stop at its ends. -/
namespace VoxelTemplate

/-- A whole number from -2147483648 to 2147483647. -/
structure Coord where
  val : Int
  least_le : -2147483648 ≤ val := by decide
  le_greatest : val ≤ 2147483647 := by decide
deriving DecidableEq

namespace Coord

def zero : Coord := { val := 0 }

instance : Inhabited Coord := ⟨zero⟩

def least : Coord := { val := -2147483648 }

def greatest : Coord := { val := 2147483647 }

/-- The coordinate nearest to `n`. -/
def clamp (n : Int) : Coord :=
  ⟨max (-2147483648) (min n 2147483647), by omega, by omega⟩

/-- The low 32 bits of `n`, read with a sign. -/
def wrap (n : Int) : Coord :=
  ⟨n.bmod 4294967296, by
    have := Int.le_bmod (x := n) (m := 4294967296) (by decide); omega, by
    have := Int.bmod_lt (x := n) (m := 4294967296) (by decide); omega⟩

def ofInt? (n : Int) : Option Coord :=
  if h : -2147483648 ≤ n ∧ n ≤ 2147483647 then some ⟨n, h.1, h.2⟩ else none

def add (a b : Coord) : Coord := clamp (a.val + b.val)

def sub (a b : Coord) : Coord := clamp (a.val - b.val)

def neg (a : Coord) : Coord := clamp (-a.val)

def min (a b : Coord) : Coord := if a.val ≤ b.val then a else b

def max (a b : Coord) : Coord := if a.val ≤ b.val then b else a

def read? (text : Text) : Option Coord := (Numeral.signed? text).bind ofInt?

def toText (a : Coord) : Text := Numeral.ofInt a.val

@[ext] theorem ext {a b : Coord} (h : a.val = b.val) : a = b := by
  cases a; cases b; simp_all

@[simp] theorem val_clamp (n : Int) :
    (clamp n).val = Max.max (-2147483648) (Min.min n 2147483647) := rfl

theorem val_min (a b : Coord) : (a.min b).val = Min.min a.val b.val := by
  unfold Coord.min
  split <;> omega

theorem val_max (a b : Coord) : (a.max b).val = Max.max a.val b.val := by
  unfold Coord.max
  split <;> omega

theorem clamp_val (a : Coord) : clamp a.val = a := by
  have := a.least_le; have := a.le_greatest
  ext; simp only [val_clamp]; omega

theorem wrap_val (a : Coord) : wrap a.val = a := by
  have := a.least_le; have := a.le_greatest
  ext
  exact Int.bmod_eq_of_le (by omega) (by omega)

theorem ofInt?_val (a : Coord) : ofInt? a.val = some a := by
  simp [ofInt?, a.least_le, a.le_greatest]

end Coord
end VoxelTemplate
