import VoxelTemplate.Template.Basic
import VoxelTemplate.Template.Fault
import VoxelTemplate.Text.Blank
/-! The two directives of a template: three whole numbers for the offset, a block and properties
for the base. Faults count bytes from the start of the body. -/
namespace VoxelTemplate

namespace Offset

/-- Where `lexemes` stop being `wanted` numbers and nothing else. A body that ends early is at
fault between `size`, its own end, and the end of its last lexeme. -/
def fault (size : Nat) : (last : Nat) → (wanted : Nat) → List (Lexeme × Span) → Fault
  | last, _, [] => ⟨⟨size, last⟩, .unexpectedEnd⟩
  | _, 0, (found, span) :: _ => ⟨span, .surplus found⟩
  | _, wanted + 1, (.number _, span) :: rest => fault size span.stop wanted rest
  | _, _ + 1, (found, span) :: _ => ⟨span, .unexpected found⟩

def read (body : Text) : Except Fault Offset :=
  match Lexeme.scan body with
  | [(.number x, _), (.number y, _), (.number z, _)] => .ok ⟨x, y, z⟩
  | lexemes => .error (fault (Text.byteSize body) (Text.byteSize body) 3 lexemes)

end Offset

namespace Base

/-- A word `name:value` with a name sets a property; other words say nothing. -/
def addWord (base : Base) (word : Text) : Base :=
  match Text.splitFirst? ':' word with
  | some (key, value) => if key.isEmpty then base else base.set key value
  | none => base

def read (body : Text) : Except Fault Base :=
  match Text.words body with
  | [] => .error ⟨⟨0, Text.byteSize body⟩, .noBlock⟩
  | block :: words => .ok (words.foldl addWord (ofBlock block))

end Base
end VoxelTemplate
