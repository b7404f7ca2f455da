import VoxelTemplate.Geometry
import VoxelTemplate.Spec
import VoxelTemplate.Text.Blank
/-! The plan of a placement: everything that it will do, settled before a world is touched. -/
namespace VoxelTemplate

def Action.calls : Action → Nat
  | .create _ => 1
  | .summon _ count => count.toNat

/-- One cell, resolved. -/
structure Placement where
  cell : Cell
  position : Position
  action : Action
  pass : Pass
deriving DecidableEq

/-- The foundation: one block from the smaller to the greater corner. -/
structure Foundation where
  block : Text
  low : Position
  high : Position
deriving DecidableEq

structure Plan where
  /-- The anchor with the offset added. -/
  origin : Position
  facing : Facing
  foundation : Option Foundation
  /-- Solid placements, then attachments, each in the order of the cells. -/
  placements : List Placement
  diagnostics : List Diagnostic
deriving DecidableEq

namespace Plan

def marginKey : Text := "margin".toList

/-- The margin that a base asks for; none is zero, and so is one that does not read. -/
def margin (base : Base) : Coord × List Diagnostic :=
  match base.get? marginKey with
  | none => (.zero, [])
  | some value => match Coord.read? (Text.trim value) with
    | some margin => (margin, [])
    | none => (.zero, [.invalidMargin value])

/-- The specification of a cell, and a complaint if its key has none. -/
def rawSpec (template : Template) (settings : Settings) (cell : Cell) : Text × List Diagnostic :=
  let key := template.key cell
  match template.spec? key with
  | some raw => (raw, [])
  | none => (settings.standIn, [.undefinedKey key cell])

def place (template : Template) (origin : Position) (facing : Facing) (settings : Settings)
    (cell : Cell) : Placement × List Diagnostic :=
  let (raw, missing) := rawSpec template settings cell
  let (spec, problems) := Spec.read settings facing raw
  ({ cell, position := Geometry.locate origin facing template.extent cell,
     action := spec.action, pass := spec.pass }, missing ++ problems)

def make (template : Template) (anchor : Position) (facing : Facing) (settings : Settings) : Plan :=
  let origin := Geometry.origin anchor facing template.offset
  let extent := template.extent
  let cells := extent.cells.map (place template origin facing settings)
  let placements := cells.map Prod.fst
  { origin, facing
    foundation := template.base.map fun base =>
      let corners := Geometry.footprint origin facing extent (margin base).1
      ⟨base.block, corners.1, corners.2⟩
    placements := placements.filter (·.pass = .solid) ++ placements.filter (·.pass = .attachment)
    diagnostics := (template.base.elim [] fun base => (margin base).2) ++ cells.flatMap Prod.snd }

def ofPass (plan : Plan) (pass : Pass) : List Placement := plan.placements.filter (·.pass = pass)

/-- Calls to a world that the plan makes, reports aside. -/
def calls (plan : Plan) : Nat :=
  plan.placements.foldr (fun placement calls => placement.action.calls + calls) 0 +
    plan.foundation.toList.length

end Plan
end VoxelTemplate
