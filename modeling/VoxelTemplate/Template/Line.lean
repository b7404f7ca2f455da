import VoxelTemplate.Template.Lexeme
import VoxelTemplate.Text.Blank
/-! Lines of a template text and the class of each. -/
namespace VoxelTemplate

/-- What one line says. -/
inductive Line where
  | comment
  | definition (key spec : Text)
  | layer (row : Text)
  | offset (body : Text)
  | base (body : Text)
  | ignored
deriving DecidableEq, Repr

namespace Line

def offsetMark : Text := "> offset ".toList

def baseMark : Text := "> base ".toList

/-- The first rule that fits decides: blank or commented, a definition, an indented layer,
a directive. -/
def read (line : Text) : Line :=
  let trimmed := Text.trim line
  if trimmed.isEmpty || trimmed.head? = some '#' then comment
  else match Text.splitFirst? '=' line with
    | some (key, spec) => definition (Text.trim key) (Text.trim spec)
    | none =>
      if line.head? = some ' ' then layer trimmed
      else match Text.after? offsetMark line with
        | some body => offset body
        | none => match Text.after? baseMark line with
          | some body => base body
          | none => ignored

/-- A line without the carriage return at its end. -/
def dropReturn (line : Text) : Text :=
  if line.getLast? = some '\r' then line.dropLast else line

/-- Lines in order, each with the bytes that it takes. -/
def placeFrom (start : Nat) : List Text → List (Text × Span)
  | [] => []
  | raw :: rest =>
    (dropReturn raw, ⟨start, start + Text.byteSize (dropReturn raw)⟩) ::
      placeFrom (start + Text.byteSize raw + 1) rest

/-- The lines of a text, parted by line feeds, and the bytes that each takes. -/
def ofSource (source : Text) : List (Text × Span) := placeFrom 0 (Text.split '\n' source)

theorem placeFrom_map_fst (start : Nat) (lines : List Text) :
    (placeFrom start lines).map Prod.fst = lines.map dropReturn := by
  induction lines generalizing start with
  | nil => rfl
  | cons raw rest ih => simp [placeFrom, ih]

end Line
end VoxelTemplate
