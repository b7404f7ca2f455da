import VoxelTemplate.Proofs.Plan.Placements
import VoxelTemplate.Library.Standard
import VoxelTemplate.Template.Parse
import VoxelTemplate.World

/-! What a plan leaves behind in a world whose blocks can be looked up. While no position is cut,
every cell keeps the block that it creates, the foundation keeps its own, and the rest of the world
is as before. -/
namespace VoxelTemplate

/-- Between two corners on every axis, the corners included. -/
structure Position.Within (p low high : Position) : Prop where
  x : low.x.val ≤ p.x.val ∧ p.x.val ≤ high.x.val
  y : low.y.val ≤ p.y.val ∧ p.y.val ≤ high.y.val
  z : low.z.val ≤ p.z.val ∧ p.z.val ≤ high.z.val

instance (p low high : Position) : Decidable (p.Within low high) :=
  decidable_of_iff ((low.x.val ≤ p.x.val ∧ p.x.val ≤ high.x.val) ∧
      (low.y.val ≤ p.y.val ∧ p.y.val ≤ high.y.val) ∧ low.z.val ≤ p.z.val ∧ p.z.val ≤ high.z.val)
    ⟨fun ⟨hx, hy, hz⟩ => ⟨hx, hy, hz⟩, fun ⟨hx, hy, hz⟩ => ⟨hx, hy, hz⟩⟩

/-- A world in which every position holds a block. Only `create` and `fill` change blocks. -/
class BlockWorld (ω : Type) extends World ω where
  blockAt : ω → Position → Text
  blockAt_create (block : Text) (place p : Position) (world : ω) :
    blockAt (create block place world) p = if p = place then block else blockAt world p
  blockAt_fill (block : Text) (low high p : Position) (world : ω) :
    blockAt (fill block low high world) p = if p.Within low high then block else blockAt world p
  blockAt_summon (entity : Text) (place p : Position) (world : ω) :
    blockAt (summon entity place world) p = blockAt world p
  blockAt_log (message : Text) (p : Position) (world : ω) :
    blockAt (log message world) p = blockAt world p

/-- A world that is nothing but its blocks. -/
structure Blocks where
  block : Position → Text

instance : BlockWorld Blocks where
  create block place world := ⟨fun p => if p = place then block else world.block p⟩
  summon _ _ world := world
  fill block low high world := ⟨fun p => if p.Within low high then block else world.block p⟩
  log _ world := world
  blockAt := Blocks.block
  blockAt_create _ _ _ _ := rfl
  blockAt_fill _ _ _ _ _ := rfl
  blockAt_summon _ _ _ _ := rfl
  blockAt_log _ _ _ := rfl

open BlockWorld

variable {ω : Type} [BlockWorld ω]

theorem blockAt_repeat_summon (entity : Text) (place p : Position) (count : Nat) (world : ω) :
    blockAt (Nat.repeat (World.summon entity place) count world) p = blockAt world p := by
  induction count with
  | zero => rfl
  | succ count ih => rw [Nat.repeat, blockAt_summon, ih]

namespace Placement

/-- The block that a placement sets at a position. -/
def block? (placement : Placement) (p : Position) : Option Text :=
  match placement.action with
  | .create block => if p = placement.position then some block else none
  | .summon _ _ => none

theorem blockAt_perform (placement : Placement) (world : ω) (p : Position) :
    blockAt (placement.perform world) p = (placement.block? p).getD (blockAt world p) := by
  unfold perform block?
  cases placement.action with
  | create block =>
    simp only [blockAt_create]
    split <;> rfl
  | summon entity count => exact blockAt_repeat_summon ..

theorem eq_position_of_block? {placement : Placement} {p : Position} {block : Text}
    (h : placement.block? p = some block) : placement.position = p := by
  unfold block? at h
  cases ha : placement.action with
  | create _ =>
    simp only [ha] at h
    split at h
    · next he => exact he.symm
    · contradiction
  | summon _ _ => simp [ha] at h

def performAll (placements : List Placement) (world : ω) : ω :=
  placements.foldl (fun world placement => placement.perform world) world

/-- Placements that set nothing at a position leave its block. -/
theorem blockAt_performAll_of_none {placements : List Placement} {p : Position}
    (h : ∀ placement ∈ placements, placement.block? p = none) (world : ω) :
    blockAt (performAll placements world) p = blockAt world p := by
  induction placements generalizing world with
  | nil => rfl
  | cons head rest ih =>
    have hhead := h head List.mem_cons_self
    have hrest := ih (fun placement hp => h placement (List.mem_cons_of_mem _ hp))
    simp only [performAll, List.foldl_cons]
    exact (hrest _).trans (by rw [blockAt_perform, hhead, Option.getD_none])

/-- Of placements at different positions each keeps the block that it sets: those before it set
another position, and so do those after it. -/
theorem blockAt_performAll_of_mem {placements : List Placement} {placement : Placement}
    {p : Position} {block : Text} (hd : placements.Pairwise fun a b => a.position ≠ b.position)
    (hm : placement ∈ placements) (hb : placement.block? p = some block) (world : ω) :
    blockAt (performAll placements world) p = block := by
  induction placements generalizing world with
  | nil => contradiction
  | cons head rest ih =>
    obtain ⟨hhead, hrest⟩ := List.pairwise_cons.1 hd
    simp only [performAll, List.foldl_cons]
    rcases List.mem_cons.1 hm with rfl | hm
    · have later : ∀ other ∈ rest, other.block? p = none := by
        intro other ho
        rw [Option.eq_none_iff_forall_ne_some]
        intro text ht
        exact hhead other ho
          ((eq_position_of_block? hb).trans (eq_position_of_block? ht).symm)
      exact (blockAt_performAll_of_none later _).trans (by rw [blockAt_perform, hb, Option.getD_some])
    · exact ih hrest hm _

end Placement

namespace Plan

/-- The world after the reports and the foundation, before any cell. -/
def ground (plan : Plan) (world : ω) : ω :=
  let told := plan.diagnostics.foldl (fun world d => World.log d.message world) world
  match plan.foundation with
  | some foundation => World.fill foundation.block foundation.low foundation.high told
  | none => told

theorem run_eq (plan : Plan) (world : ω) :
    plan.run world = Placement.performAll plan.placements (plan.ground world) := rfl

theorem blockAt_reports (diagnostics : List Diagnostic) (world : ω) (p : Position) :
    blockAt (diagnostics.foldl (fun world d => World.log d.message world) world) p =
      blockAt world p := by
  induction diagnostics generalizing world with
  | nil => rfl
  | cons d rest ih => rw [List.foldl_cons, ih, blockAt_log]

theorem blockAt_ground_inside {plan : Plan} {foundation : Foundation}
    (hf : foundation ∈ plan.foundation) {p : Position}
    (hp : p.Within foundation.low foundation.high) (world : ω) :
    blockAt (plan.ground world) p = foundation.block := by
  rw [Option.mem_def] at hf
  simp only [ground, hf, blockAt_fill, hp, ↓reduceIte]

theorem blockAt_ground_outside {plan : Plan} {p : Position}
    (hp : ∀ foundation ∈ plan.foundation, ¬ p.Within foundation.low foundation.high) (world : ω) :
    blockAt (plan.ground world) p = blockAt world p := by
  cases hf : plan.foundation with
  | none => simp only [ground, hf, blockAt_reports]
  | some foundation =>
    have := hp foundation hf
    simp only [ground, hf, blockAt_fill, this, ↓reduceIte, blockAt_reports]

variable {template : Template} {anchor : Position} {facing : Facing} {settings : Settings}

theorem foundation_below (hy : -2147483648 ≤ (Geometry.origin anchor facing template.offset).y.val - 1)
    {foundation : Foundation} (hf : foundation ∈ (make template anchor facing settings).foundation)
    {p : Position} (hp : p.Within foundation.low foundation.high) :
    p.y.val = (Geometry.origin anchor facing template.offset).y.val - 1 := by
  have := (Geometry.origin anchor facing template.offset).y.le_greatest
  simp only [make, Option.mem_def, Option.map_eq_some_iff] at hf
  obtain ⟨base, -, rfl⟩ := hf
  have h := hp.y
  simp only [Geometry.footprint, Coord.sub, Coord.val_clamp] at h
  omega

/-- What a plan leaves of a world, said of the blocks `before` and `after` it. -/
structure Leaves (template : Template) (anchor : Position) (facing : Facing) (settings : Settings)
    (before after : Position → Text) : Prop where
  /-- A block that a cell creates is there. -/
  created : ∀ cell, template.extent.Has cell →
    (resolved template facing settings cell).kind = .block →
    after (placed template anchor facing settings cell).position =
      (resolved template facing settings cell).identifier
  /-- The foundation is there as a whole. -/
  founded : ∀ foundation ∈ (make template anchor facing settings).foundation,
    ∀ p : Position, p.Within foundation.low foundation.high → after p = foundation.block
  /-- All other positions are as before. -/
  untouched : ∀ p : Position,
    (∀ cell, template.extent.Has cell → (resolved template facing settings cell).kind = .block →
      (placed template anchor facing settings cell).position ≠ p) →
    (∀ foundation ∈ (make template anchor facing settings).foundation,
      ¬ p.Within foundation.low foundation.high) →
    after p = before p
  /-- Where an entity appears, the block is as before. -/
  summoned : ∀ cell, template.extent.Has cell →
    (resolved template facing settings cell).kind ≠ .block →
    after (placed template anchor facing settings cell).position =
      before (placed template anchor facing settings cell).position
  /-- No cell stands where another does. -/
  apart : ∀ cell other, template.extent.Has cell → template.extent.Has other →
    (placed template anchor facing settings cell).position =
      (placed template anchor facing settings other).position → cell = other
  /-- No cell stands in the foundation. -/
  above : ∀ cell, template.extent.Has cell →
    ∀ foundation ∈ (make template anchor facing settings).foundation,
      ¬ (placed template anchor facing settings cell).position.Within foundation.low foundation.high

theorem block?_placed {cell : Cell} (h : (resolved template facing settings cell).kind = .block) :
    (placed template anchor facing settings cell).block?
      (placed template anchor facing settings cell).position =
      some (resolved template facing settings cell).identifier := by
  simp only [Placement.block?, placed_action, Spec.action, h, ↓reduceIte]

theorem block?_placed_eq_none {cell : Cell} {p : Position}
    (h : (resolved template facing settings cell).kind = .block →
      (placed template anchor facing settings cell).position ≠ p) :
    (placed template anchor facing settings cell).block? p = none := by
  cases hk : (resolved template facing settings cell).kind with
  | block => simp only [Placement.block?, placed_action, Spec.action, hk, (h hk).symm, ↓reduceIte]
  | entity count => simp only [Placement.block?, placed_action, Spec.action, hk]

theorem blockAt_run_of_none {p : Position}
    (h : ∀ cell, template.extent.Has cell → (resolved template facing settings cell).kind = .block →
      (placed template anchor facing settings cell).position ≠ p) (world : ω) :
    blockAt ((make template anchor facing settings).run world) p =
      blockAt ((make template anchor facing settings).ground world) p := by
  rw [run_eq]
  apply Placement.blockAt_performAll_of_none
  intro placement hm
  obtain ⟨cell, hc, rfl⟩ := (mem_placements ..).1 hm
  exact block?_placed_eq_none (h cell hc)

section Uncut

variable (fits : Geometry.Fits (Geometry.origin anchor facing template.offset) facing
    template.extent)
include fits

theorem placements_apart : (make template anchor facing settings).placements.Pairwise
    fun a b => a.position ≠ b.position := by
  rw [(placements_perm template anchor facing settings).pairwise_iff fun h => h.symm,
    List.pairwise_map]
  refine (Extent.nodup_cells _).imp_of_mem ?_
  intro cell other hc ho hne he
  exact hne (fits.cell_eq (Extent.mem_cells.1 hc) (Extent.mem_cells.1 ho) he)

theorem blockAt_run_created {cell : Cell} (hc : template.extent.Has cell)
    (hk : (resolved template facing settings cell).kind = .block) (world : ω) :
    blockAt ((make template anchor facing settings).run world)
        (placed template anchor facing settings cell).position =
      (resolved template facing settings cell).identifier := by
  rw [run_eq]
  exact Placement.blockAt_performAll_of_mem (placements_apart fits)
    ((mem_placements ..).2 ⟨cell, hc, rfl⟩) (block?_placed hk) _

/-- Rows go up from the origin, and the foundation lies below it. -/
theorem above_foundation
    (hy : -2147483648 ≤ (Geometry.origin anchor facing template.offset).y.val - 1) {cell : Cell}
    (hc : template.extent.Has cell) {foundation : Foundation}
    (hf : foundation ∈ (make template anchor facing settings).foundation) :
    ¬ (placed template anchor facing settings cell).position.Within
      foundation.low foundation.high := by
  intro hw
  have below := foundation_below hy hf hw
  have height := congrArg Point.y (fits.toPoint_locate hc)
  have up : (Geometry.shift facing template.extent cell).y = cell.row := by cases facing <;> rfl
  rw [Point.add_y, up] at height
  simp only [placed_position] at below
  simp only [Position.toPoint] at height
  omega

end Uncut

/-- Building a template whose positions are not cut sets exactly the blocks that its cells create
and the foundation, each at its place. The origin itself may have been cut on the way to it. -/
theorem leaves_run (template : Template) (anchor : Position) (facing : Facing) (settings : Settings)
    (world : ω)
    (fits : Geometry.Fits (Geometry.origin anchor facing template.offset) facing template.extent)
    (hy : -2147483648 ≤ (Geometry.origin anchor facing template.offset).y.val - 1) :
    Leaves template anchor facing settings (blockAt world)
      (blockAt ((make template anchor facing settings).run world)) where
  created cell hc hk := blockAt_run_created fits hc hk world
  founded foundation hf p hp := by
    rw [blockAt_run_of_none, blockAt_ground_inside hf hp]
    rintro cell hc - rfl
    exact above_foundation fits hy hc hf hp
  untouched p hcells hfoundation := by
    rw [blockAt_run_of_none hcells, blockAt_ground_outside hfoundation]
  summoned cell hc hk := by
    rw [blockAt_run_of_none, blockAt_ground_outside fun foundation hf =>
      above_foundation fits hy hc hf]
    intro other ho hother he
    obtain rfl := fits.cell_eq ho hc he
    exact hk hother
  apart cell other hc ho he := fits.cell_eq hc ho he
  above cell hc foundation hf := above_foundation fits hy hc hf

/-- The pen, with a summon inside and a foundation below, facing east in a world of air. -/
theorem leaves_run_pen :
    let template := Template.ofLines (Line.ofSource Library.pen)
    let anchor : Position := ⟨{ val := -7 }, { val := 64 }, { val := 3 }⟩
    let air : Blocks := ⟨fun _ => "air".toList⟩
    Template.parse Library.pen = .ok template ∧
      Geometry.Fits (Geometry.origin anchor .east template.offset) .east template.extent ∧
      -2147483648 ≤ (Geometry.origin anchor .east template.offset).y.val - 1 ∧
      Leaves template anchor .east .default air.block
        ((make template anchor .east .default).run air).block := by
  intro template anchor air
  have extent : template.extent = ⟨5, 1, 5⟩ := by decide +kernel
  have origin : Geometry.origin anchor .east template.offset = anchor := by decide +kernel
  have fits : Geometry.Fits (Geometry.origin anchor .east template.offset) .east
      template.extent := by
    rw [origin, extent]
    exact .of_room ⟨by decide, by decide, by decide⟩ (by decide) (by decide) (by decide)
  have hy : -2147483648 ≤ (Geometry.origin anchor .east template.offset).y.val - 1 := by
    rw [origin]
    decide
  exact ⟨by decide +kernel, fits, hy, leaves_run template anchor .east .default air fits hy⟩

end Plan
end VoxelTemplate
