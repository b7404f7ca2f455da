import VoxelTemplate.Plan
/-! Worlds that structures are built into, and the running of a plan in one. -/
namespace VoxelTemplate

/-- What a plan needs of a world. -/
class World (ω : Type) where
  /-- Sets one block; the text may carry tile data. -/
  create : (block : Text) → Position → ω → ω
  /-- Spawns one entity. -/
  summon : (entity : Text) → Position → ω → ω
  /-- Sets every block between two corners. -/
  fill : (block : Text) → (low high : Position) → ω → ω
  /-- Hears a report; this has no effect on the blocks. -/
  log : (message : Text) → ω → ω

variable {ω : Type} [World ω]

/-- One action at a position; a summon happens `count` times. -/
def Placement.perform (placement : Placement) (world : ω) : ω :=
  match placement.action with
  | .create block => World.create block placement.position world
  | .summon entity count => Nat.repeat (World.summon entity placement.position) count.toNat world

namespace Plan

/-- Reports first, then the foundation, then the placements in their order. -/
def run (plan : Plan) (world : ω) : ω :=
  let told := plan.diagnostics.foldl (fun world d => World.log d.message world) world
  let grounded := match plan.foundation with
    | some foundation => World.fill foundation.block foundation.low foundation.high told
    | none => told
  plan.placements.foldl (fun world placement => placement.perform world) grounded

/-- Plans a template and runs the plan. -/
def build (template : Template) (anchor : Position) (facing : Facing) (settings : Settings)
    (world : ω) : Plan × ω :=
  let plan := make template anchor facing settings
  (plan, plan.run world)

end Plan
end VoxelTemplate
