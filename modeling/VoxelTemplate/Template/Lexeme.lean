import VoxelTemplate.Coord
/-! Lexemes of an offset directive, each with its place in bytes. Spaces and tabs part lexemes;
a lexeme is as long as its class allows, and a character that starts none is one by itself. -/
namespace VoxelTemplate

/-- A range of bytes, from the first to just past the last. -/
structure Span where
  start : Nat
  stop : Nat
deriving DecidableEq, Repr

namespace Span

def shift (span : Span) (bytes : Nat) : Span := ⟨span.start + bytes, span.stop + bytes⟩

end Span

inductive Lexeme where
  | colon
  | number (value : Coord)
  | word (text : Text)
  | invalid (text : Text)
deriving DecidableEq

namespace Lexeme

def isGap (c : Char) : Bool := c = ' ' || c = '\t'

def isWordStart (c : Char) : Bool := c.isAlpha || c = '_'

def isWordPart (c : Char) : Bool := c.isAlphanum || c = '_' || c = '.' || c = '-'

/-- Whether a numeral starts with `c` followed by `text`. -/
def startsNumeral (c : Char) (text : Text) : Bool :=
  c.isDigit || (c = '-' && (text.head?.any Char.isDigit))

/-- The characters after `c` that belong to its lexeme. -/
def tail (c : Char) (text : Text) : Text :=
  if startsNumeral c text then text.takeWhile Char.isDigit
  else if isWordStart c then text.takeWhile isWordPart
  else []

/-- What a lexeme's text, which starts with `c`, means. -/
def ofText (c : Char) (rest : Text) : Lexeme :=
  if c = ':' then colon
  else if startsNumeral c rest then
    match Coord.read? (c :: rest) with
    | some value => number value
    | none => invalid (c :: rest)
  else if isWordStart c then word (c :: rest)
  else invalid (c :: rest)

/-- The lexemes of a text whose first byte is at `start`. -/
def scanFrom (start : Nat) : Text → List (Lexeme × Span)
  | [] => []
  | c :: text =>
    if isGap c then scanFrom (start + c.utf8Size) text
    else
      let rest := tail c text
      let stop := start + Text.byteSize (c :: rest)
      (ofText c rest, ⟨start, stop⟩) :: scanFrom stop (text.drop rest.length)
termination_by text => text.length
decreasing_by all_goals simp only [List.length_cons, List.length_drop]; omega

def scan (text : Text) : List (Lexeme × Span) := scanFrom 0 text

def describe : Lexeme → Text
  | colon => "':'".toList
  | number value => "integer ".toList ++ value.toText
  | word text => "word '".toList ++ text ++ "'".toList
  | invalid text => "'".toList ++ text ++ "'".toList

end Lexeme
end VoxelTemplate
