import VoxelTemplate.Text.Basic
/-! Blank characters: the Unicode property White_Space, and the text functions that skip them. -/
namespace VoxelTemplate.Text

/-- First and last code points of the runs of characters with the property White_Space. -/
def blankRanges : List (Nat × Nat) :=
  [(0x9, 0xD), (0x20, 0x20), (0x85, 0x85), (0xA0, 0xA0), (0x1680, 0x1680), (0x2000, 0x200A),
    (0x2028, 0x2029), (0x202F, 0x202F), (0x205F, 0x205F), (0x3000, 0x3000)]

def isBlank (c : Char) : Bool :=
  blankRanges.any fun (first, last) => first ≤ c.toNat && c.toNat ≤ last

def trimStart (text : Text) : Text := text.dropWhile isBlank

def trimEnd (text : Text) : Text := (text.reverse.dropWhile isBlank).reverse

/-- The text without the blanks at either end. -/
def trim (text : Text) : Text := trimEnd (trimStart text)

/-- The longest pieces without blanks. -/
def words (text : Text) : List Text := (splitWhere isBlank text).filter fun piece => !piece.isEmpty

@[simp] theorem trim_nil : trim [] = [] := rfl

end VoxelTemplate.Text
