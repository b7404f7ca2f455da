import VoxelTemplate.Command
import VoxelTemplate.Library.Basic
import VoxelTemplate.Template.Parse
/-! Building templates by name: a library, and the settings for all that is built from it. -/
namespace VoxelTemplate

structure Builder where
  library : Library := .standard
  settings : Settings := .default

inductive BuildError where
  /-- The template that a name leads to does not parse. -/
  | faulty (name : Text) (faults : List Fault)
  | library (error : Library.Error)
deriving DecidableEq

def BuildError.message : BuildError → Text
  | faulty name faults =>
    "parse errors in template '".toList ++ name ++ "': ".toList ++
      Text.join "; ".toList (faults.map Fault.describe)
  | library error => "library error: ".toList ++ error.message

namespace Builder

/-- The template under a name, or under the fallback of the library. -/
def template (builder : Builder) (name : Text) : Except BuildError Template :=
  match builder.library.find name with
  | .error error => .error (.library error)
  | .ok (found, source) => match Template.parse source with
    | .error faults => .error (.faulty found faults)
    | .ok template => .ok template

/-- Builds the template of a name. Whatever is wrong comes out before the world is touched. -/
def build {ω : Type} [World ω] (builder : Builder) (name : Text) (anchor : Position)
    (facing : Facing) (world : ω) : Except BuildError (Plan × ω) :=
  match builder.template name with
  | .error error => .error error
  | .ok template => .ok (Plan.build template anchor facing builder.settings world)

end Builder
end VoxelTemplate
