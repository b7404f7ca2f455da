import VoxelTemplate.Proofs.Geometry.Opposite
import VoxelTemplate.Proofs.Plan.Passes

/-! Plans of one template from different anchors. Facing the same way they are moved against each
other; facing opposite ways they are half turns of each other. Nothing may be cut in either plan. -/
namespace VoxelTemplate.Plan
open VoxelTemplate.Geometry

/-- No coordinate of the plan is cut: not that of its origin, of a cell or of the foundation. -/
structure Uncut (template : Template) (anchor : Position) (facing : Facing) : Prop where
  origin : (anchor.toPoint + turnedOffset facing template.offset).InWorld
  cells : Geometry.Uncut (Geometry.origin anchor facing template.offset) facing template.extent
  corners : ∀ base ∈ template.base,
    (corners (Geometry.origin anchor facing template.offset) facing template.extent
        (margin base).1).1.InWorld ∧
      (corners (Geometry.origin anchor facing template.offset) facing template.extent
        (margin base).1).2.InWorld

/-- Cell by cell, the second plan lies about its anchor as the first does about its own. -/
structure Moved (plan : Plan) (anchor : Position) (other : Plan) (anchor' : Position) : Prop where
  placements : List.Forall₂
    (fun p q => p.cell = q.cell ∧
      q.position.toPoint - anchor'.toPoint = p.position.toPoint - anchor.toPoint)
    plan.placements other.placements
  foundation : Option.Rel
    (fun p q => q.low.toPoint - anchor'.toPoint = p.low.toPoint - anchor.toPoint ∧
      q.high.toPoint - anchor'.toPoint = p.high.toPoint - anchor.toPoint)
    plan.foundation other.foundation

/-- Cell by cell, the second plan lies about its anchor as the half turn of the first. The greater
corner of a foundation becomes the smaller one. -/
structure HalfTurned (plan : Plan) (anchor : Position) (other : Plan) (anchor' : Position) :
    Prop where
  placements : List.Forall₂
    (fun p q => p.cell = q.cell ∧
      q.position.toPoint - anchor'.toPoint = (p.position.toPoint - anchor.toPoint).halfTurn)
    plan.placements other.placements
  foundation : Option.Rel
    (fun p q => q.low.toPoint - anchor'.toPoint = (p.high.toPoint - anchor.toPoint).halfTurn ∧
      q.high.toPoint - anchor'.toPoint = (p.low.toPoint - anchor.toPoint).halfTurn)
    plan.foundation other.foundation

section Ways

/-- The way from the anchor to a cell. -/
def wayTo (template : Template) (facing : Facing) (cell : Cell) : Point :=
  turnedOffset facing template.offset +
    frame facing (across template.extent cell) (Coord.wrap cell.row).val
      (reach template.extent cell).val

theorem wayTo_opposite (template : Template) (facing : Facing) (cell : Cell) :
    wayTo template facing.opposite cell = (wayTo template facing cell).halfTurn := by
  rw [wayTo, wayTo, turnedOffset_opposite, frame_opposite, Point.halfTurn_add]

/-- The foundation about the origin: around the first cell and the last one of the ground. -/
def footing (template : Template) (facing : Facing) (base : Base) : Point × Point :=
  let place (cell : Cell) := frame facing (across template.extent cell) (Coord.wrap cell.row).val
    (reach template.extent cell).val
  Point.box (place ⟨0, 0, 0⟩) (place ⟨template.extent.depth - 1, 0, template.extent.width - 1⟩)
    (margin base).1.val

theorem footing_opposite (template : Template) (facing : Facing) (base : Base) :
    footing template facing.opposite base =
      ((footing template facing base).2.halfTurn, (footing template facing base).1.halfTurn) := by
  simp only [footing, frame_opposite, Point.box_halfTurn]

end Ways

/-- The foundation of a base. -/
def founded (template : Template) (anchor : Position) (facing : Facing) (base : Base) : Foundation :=
  let corners := footprint (Geometry.origin anchor facing template.offset) facing template.extent
    (margin base).1
  ⟨base.block, corners.1, corners.2⟩

section Related

variable {template : Template} {settings : Settings} {anchor anchor' : Position}
  {facing facing' : Facing}

/-- The order of the cells depends on neither the anchor nor the facing. -/
theorem forall₂_placements {R : Placement → Placement → Prop}
    (h : ∀ cell, template.extent.Has cell → R (placed template anchor facing settings cell)
      (placed template anchor' facing' settings cell)) :
    List.Forall₂ R (make template anchor facing settings).placements
      (make template anchor' facing' settings).placements := by
  rw [placements_eq_map, placements_eq_map, List.forall₂_map_left_iff, List.forall₂_map_right_iff]
  refine List.forall₂_same.2 fun cell hc => h cell (Extent.mem_cells.1 ?_)
  rcases List.mem_append.1 hc with hc | hc <;> exact (List.mem_filter.1 hc).1

theorem rel_foundation {R : Foundation → Foundation → Prop}
    (h : ∀ base ∈ template.base, R (founded template anchor facing base)
      (founded template anchor' facing' base)) :
    Option.Rel R (make template anchor facing settings).foundation
      (make template anchor' facing' settings).foundation := by
  have founded_eq (a : Position) (f : Facing) :
      (make template a f settings).foundation = template.base.map (founded template a f) := rfl
  rw [founded_eq, founded_eq]
  cases hb : template.base with
  | none => exact .none
  | some base => exact .some (h base hb)

end Related

section Uncut

variable {template : Template} {anchor : Position} {facing : Facing} (settings : Settings)
variable (hx : template.offset.x ≠ .least) (hz : template.offset.z ≠ .least)
include hx hz

theorem Uncut.toPoint_origin (h : Uncut template anchor facing) :
    (Geometry.origin anchor facing template.offset).toPoint =
      anchor.toPoint + turnedOffset facing template.offset :=
  OriginFits.toPoint_origin ⟨turnedOffset_inWorld facing hx hz, h.origin⟩

theorem Uncut.placed_sub (h : Uncut template anchor facing) {cell : Cell}
    (hc : template.extent.Has cell) :
    (placed template anchor facing settings cell).position.toPoint - anchor.toPoint =
      wayTo template facing cell := by
  rw [Point.sub_eq_add_sub (h.toPoint_origin hx hz), wayTo, ← h.cells.way_eq hc]
  rfl

/-- The way from the anchor to either corner of the foundation. -/
theorem Uncut.founded_sub (h : Uncut template anchor facing) (grid : Template.IsGrid template.layers)
    {base : Base} (hb : base ∈ template.base) :
    (founded template anchor facing base).low.toPoint - anchor.toPoint =
        turnedOffset facing template.offset + (footing template facing base).1 ∧
      (founded template anchor facing base).high.toPoint - anchor.toPoint =
        turnedOffset facing template.offset + (footing template facing base).2 := by
  obtain ⟨depth, height, width⟩ := grid.extent_pos
  have first : template.extent.Has ⟨0, 0, 0⟩ := ⟨depth, height, width⟩
  have last : template.extent.Has ⟨template.extent.depth - 1, 0, template.extent.width - 1⟩ :=
    ⟨Nat.sub_lt depth Nat.one_pos, height, Nat.sub_lt width Nat.one_pos⟩
  have corners_eq : Geometry.corners (Geometry.origin anchor facing template.offset) facing
      template.extent (margin base).1 =
        ((Geometry.origin anchor facing template.offset).toPoint + (footing template facing base).1,
          (Geometry.origin anchor facing template.offset).toPoint +
            (footing template facing base).2) := by
    rw [Geometry.corners, h.cells.way_eq first, h.cells.way_eq last]
    rfl
  obtain ⟨low, high⟩ := h.corners base hb
  rw [corners_eq] at low high
  simp only [founded, footprint_eq_clamp, corners_eq, Point.toPoint_clamp low,
    Point.toPoint_clamp high, Point.sub_eq_add_sub (h.toPoint_origin hx hz), Point.add_sub_self,
    and_self]

end Uncut

/-- Plans that face opposite ways are half turns of each other about their anchors, with their
foundations; plans that face the same way are moved with their anchors. -/
theorem half_turned_opposite {source : Text} {template : Template}
    (parsed : Template.parse source = .ok template) (hx : template.offset.x ≠ .least)
    (hz : template.offset.z ≠ .least) (settings : Settings) (facing : Facing) {a b : Position}
    (here : Uncut template a facing) (there : Uncut template b facing.opposite) :
    HalfTurned (make template a facing settings) a
        (make template b facing.opposite settings) b ∧
      ∀ c, Uncut template c facing →
        Moved (make template a facing settings) a (make template c facing settings) c := by
  have grid := Template.isGrid_of_parse parsed
  refine ⟨⟨?_, ?_⟩, fun c same => ⟨?_, ?_⟩⟩
  · apply forall₂_placements
    intro cell hc
    refine ⟨rfl, ?_⟩
    rw [here.placed_sub settings hx hz hc, there.placed_sub settings hx hz hc, wayTo_opposite]
  · apply rel_foundation
    intro base hb
    obtain ⟨low, high⟩ := here.founded_sub hx hz grid hb
    obtain ⟨low', high'⟩ := there.founded_sub hx hz grid hb
    rw [low, high, low', high', footing_opposite, turnedOffset_opposite, Point.halfTurn_add,
      Point.halfTurn_add]
    exact ⟨rfl, rfl⟩
  · apply forall₂_placements
    intro cell hc
    refine ⟨rfl, ?_⟩
    rw [here.placed_sub settings hx hz hc, same.placed_sub settings hx hz hc]
  · apply rel_foundation
    intro base hb
    obtain ⟨low, high⟩ := here.founded_sub hx hz grid hb
    obtain ⟨low', high'⟩ := same.founded_sub hx hz grid hb
    rw [low, high, low', high']
    exact ⟨rfl, rfl⟩

/-- A wall of even width with an offset, over a foundation that a negative margin makes smaller. -/
theorem half_turned_opposite_wall :
    let source := Text.ofLines
      ["s=oak_stairs 2", "t=torch 1", "> offset 2 -1 3", "> base dirt margin:-1",
        " s s s s   t s s s", " s s s s   s s s t", " s t s s   s s s s"]
    let template := Template.ofLines (Line.ofSource source)
    let a : Position := ⟨{ val := 10 }, { val := 64 }, { val := -7 }⟩
    let b : Position := ⟨{ val := -300 }, { val := 70 }, { val := 2147480000 }⟩
    let c : Position := ⟨{ val := 0 }, { val := 1 }, { val := 0 }⟩
    Template.parse source = .ok template ∧ template.offset.x ≠ .least ∧
      template.offset.z ≠ .least ∧ Uncut template a .east ∧ Uncut template b .west ∧
      Uncut template c .east ∧
      HalfTurned (make template a .east .default) a (make template b .west .default) b ∧
      Moved (make template a .east .default) a (make template c .east .default) c := by
  intro source template a b c
  have parsed : Template.parse source = .ok template := by decide +kernel
  have hx : template.offset.x ≠ .least := by decide +kernel
  have hz : template.offset.z ≠ .least := by decide +kernel
  have extent : template.extent = ⟨3, 2, 4⟩ := by decide +kernel
  have cells (p : Position) (f : Facing)
      (hx : (Geometry.origin p f template.offset).x.val.natAbs + 3 + 4 ≤ 2147483647)
      (hy : (Geometry.origin p f template.offset).y.val + 2 ≤ 2147483647)
      (hz : (Geometry.origin p f template.offset).z.val.natAbs + 3 + 4 ≤ 2147483647) :
      Geometry.Uncut (Geometry.origin p f template.offset) f template.extent := by
    rw [extent]
    exact Fits.uncut (.of_room ⟨by decide, by decide, by decide⟩ hx hy hz)
  have here : Uncut template a .east :=
    ⟨by decide +kernel, cells a .east (by decide +kernel) (by decide +kernel) (by decide +kernel),
      by decide +kernel⟩
  have there : Uncut template b .west :=
    ⟨by decide +kernel, cells b .west (by decide +kernel) (by decide +kernel) (by decide +kernel),
      by decide +kernel⟩
  have same : Uncut template c .east :=
    ⟨by decide +kernel, cells c .east (by decide +kernel) (by decide +kernel) (by decide +kernel),
      by decide +kernel⟩
  obtain ⟨turned, moved⟩ := half_turned_opposite parsed hx hz .default .east here there
  exact ⟨parsed, hx, hz, here, there, same, turned, moved c same⟩

end VoxelTemplate.Plan
