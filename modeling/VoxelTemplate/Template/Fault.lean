import VoxelTemplate.Template.Lexeme
/-! What can be wrong with a template text, where, and how it is said. -/
namespace VoxelTemplate

/-- A reason to refuse a template text. Layers, rows and cells count from one. -/
inductive Fault.Cause where
  /-- A lexeme where an offset needs a number. -/
  | unexpected (found : Lexeme)
  /-- A lexeme after the three numbers of an offset. -/
  | surplus (found : Lexeme)
  /-- An offset with fewer than three numbers. -/
  | unexpectedEnd
  /-- A base without a block. -/
  | noBlock
  | noLayers
  | rowCount (layer found wanted : Nat)
  | cellCount (row layer found wanted : Nat)
deriving DecidableEq

structure Fault where
  span : Span
  cause : Fault.Cause
deriving DecidableEq

namespace Fault

/-- Faults of a directive; the others concern the layers as a whole. -/
def Cause.isDirective : Cause → Bool
  | unexpected _ | surplus _ | unexpectedEnd | noBlock => true
  | noLayers | rowCount .. | cellCount .. => false

def Cause.message : Cause → Text
  | unexpected found => "Unexpected ".toList ++ found.describe
  | surplus found => "Unexpected ".toList ++ found.describe
  | unexpectedEnd => "Unexpected end of line".toList
  | noBlock => "Expected a block id".toList
  | noLayers => "template has no layers".toList
  | rowCount layer found wanted =>
    "layer ".toList ++ Numeral.ofNat layer ++ " has ".toList ++ Numeral.ofNat found ++
      " rows, expected ".toList ++ Numeral.ofNat wanted
  | cellCount row layer found wanted =>
    "row ".toList ++ Numeral.ofNat row ++ " of layer ".toList ++ Numeral.ofNat layer ++
      " has ".toList ++ Numeral.ofNat found ++ " cells, expected ".toList ++ Numeral.ofNat wanted

/-- What would have been right in the place of the fault, where that is one thing. -/
def Cause.expected : Cause → List Text
  | surplus _ => ["end of line".toList]
  | noBlock => ["block id".toList]
  | _ => []

def isDirective (fault : Fault) : Bool := fault.cause.isDirective

def message (fault : Fault) : Text := fault.cause.message

def expected (fault : Fault) : List Text := fault.cause.expected

def describe (fault : Fault) : Text :=
  (if fault.isDirective then "Parse error at ".toList else "Malformed template at ".toList) ++
    Numeral.ofNat fault.span.start ++ "..".toList ++ Numeral.ofNat fault.span.stop ++
    ": ".toList ++ fault.message

/-- The fault as seen from a text in which `bytes` stand before. -/
def shift (fault : Fault) (bytes : Nat) : Fault := { fault with span := fault.span.shift bytes }

end Fault
end VoxelTemplate
