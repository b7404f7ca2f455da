import Mathlib.Data.Set.Card
import VoxelTemplate.Proofs.Geometry.Room
import VoxelTemplate.Proofs.Template.Shape
import VoxelTemplate.Proofs.Text.Decimal
import VoxelTemplate.Proofs.World.Blocks

/-! The foundation and the cells of the lowest row. Two corner cells bound them all, for every
facing and also where they are cut to the world; so the foundation spans the ground and its
margin. -/
namespace VoxelTemplate

namespace Coord

theorem val_sub_zero (a : Coord) : (a.sub .zero).val = a.val := by
  rw [sub, show a.val - zero.val = a.val from Int.sub_zero a.val, clamp_val]

theorem val_add_zero (a : Coord) : (a.add .zero).val = a.val := by
  rw [add, show a.val + zero.val = a.val from Int.add_zero a.val, clamp_val]

/-- What lies between two numbers is cut to something between what they are cut to. -/
theorem clamp_between {a b n : Int} (h : Min.min a b ≤ n ∧ n ≤ Max.max a b) :
    Min.min (clamp a).val (clamp b).val ≤ (clamp n).val ∧
      (clamp n).val ≤ Max.max (clamp a).val (clamp b).val := by
  simp only [val_clamp]
  omega

end Coord

namespace Position

theorem within_iff_between (p low high : Position) (w : Point) :
    p.Within low high ↔ (p.toPoint + w).Between (low.toPoint + w) (high.toPoint + w) := by
  constructor
  · rintro ⟨hx, hy, hz⟩
    constructor <;> simp only [toPoint, Point.add_x, Point.add_y, Point.add_z] <;> omega
  · rintro ⟨hx, hy, hz⟩
    simp only [toPoint, Point.add_x, Point.add_y, Point.add_z] at hx hy hz
    constructor <;> omega

theorem eq_of_toPoint_add {p q : Position} {w : Point} (h : p.toPoint + w = q.toPoint + w) :
    p = q := by
  have hx := congrArg Point.x h
  have hy := congrArg Point.y h
  have hz := congrArg Point.z h
  simp only [toPoint, Point.add_x, Point.add_y, Point.add_z] at hx hy hz
  rw [Position.mk.injEq]
  exact ⟨Coord.ext (by omega), Coord.ext (by omega), Coord.ext (by omega)⟩

end Position

/-- The margin that the properties of a base ask for. -/
inductive Base.AsksMargin (base : Base) : Int → Prop where
  | absent (h : base.get? "margin".toList = none) : AsksMargin base 0
  | number {value : Text} {margin : Int} (h : base.get? "margin".toList = some value)
    (signed : Numeral.Signed (Text.trim value) margin)
    (range : -2147483648 ≤ margin ∧ margin ≤ 2147483647) : AsksMargin base margin
  | invalid {value : Text} (h : base.get? "margin".toList = some value)
    (unwritten : ¬ Coord.Written (Text.trim value)) : AsksMargin base 0

/-- There is one such margin, the one that a plan takes. -/
theorem Base.asksMargin_iff (base : Base) (margin : Int) :
    base.AsksMargin margin ↔ margin = (Plan.margin base).1.val := by
  constructor
  · intro h
    unfold Plan.margin Plan.marginKey
    cases h with
    | absent h =>
      rw [h]
      rfl
    | @number value _ h signed range =>
      have read : Coord.read? (Text.trim value) = some ⟨margin, range.1, range.2⟩ :=
        Coord.read?_eq_some_iff.2 signed
      simp only [h, read]
    | invalid h unwritten =>
      simp only [h, Coord.read?_eq_none_iff.2 unwritten]
      rfl
  · rintro rfl
    unfold Plan.margin
    cases h : base.get? Plan.marginKey with
    | none => exact .absent h
    | some value =>
      dsimp only
      cases hr : Coord.read? (Text.trim value) with
      | some margin =>
        exact .number h (Coord.read?_eq_some_iff.1 hr) ⟨margin.least_le, margin.le_greatest⟩
      | none => exact .invalid h (Coord.read?_eq_none_iff.1 hr)

namespace Extent

/-- A grid with a cell has the two cells that the corners of a foundation come from. -/
theorem Has.corners {extent : Extent} {cell : Cell} (hc : extent.Has cell) :
    extent.Has ⟨0, 0, 0⟩ ∧ extent.Has ⟨extent.depth - 1, 0, extent.width - 1⟩ := by
  have depth := Nat.zero_lt_of_lt hc.layer_lt
  have height := Nat.zero_lt_of_lt hc.row_lt
  have width := Nat.zero_lt_of_lt hc.column_lt
  exact ⟨⟨depth, height, width⟩,
    ⟨Nat.sub_lt depth Nat.one_pos, height, Nat.sub_lt width Nat.one_pos⟩⟩

/-- The same grid with its lowest row alone. -/
def flat (extent : Extent) : Extent := { extent with height := 1 }

theorem flat_has_iff {extent : Extent} {cell : Cell} (hh : 0 < extent.height) :
    extent.flat.Has cell ↔ extent.Has cell ∧ cell.row = 0 := by
  constructor
  · intro h
    have row : cell.row < 1 := h.row_lt
    exact ⟨⟨h.layer_lt, by omega, h.column_lt⟩, by omega⟩
  · rintro ⟨h, row⟩
    exact ⟨h.layer_lt, Nat.lt_one_iff.2 row, h.column_lt⟩

theorem ncard_has (extent : Extent) :
    {cell | extent.Has cell}.ncard = extent.depth * extent.height * extent.width := by
  have cells : {cell | extent.Has cell} = (extent.cells.toFinset : Set Cell) := by
    ext cell
    simp [mem_cells]
  rw [cells, Set.ncard_coe_finset, List.toFinset_card_of_nodup extent.nodup_cells,
    extent.length_cells]

end Extent

namespace Geometry

/-- The first cell of the ground and the last have all others between them. -/
theorem locate_between_corners (origin : Position) (facing : Facing) {extent : Extent}
    (hb : extent.Bounded) {cell : Cell} (hc : extent.Has cell) :
    let near := locate origin facing extent ⟨0, 0, 0⟩
    let far := locate origin facing extent ⟨extent.depth - 1, 0, extent.width - 1⟩
    let p := locate origin facing extent cell
    (min near.x.val far.x.val ≤ p.x.val ∧ p.x.val ≤ max near.x.val far.x.val) ∧
      min near.z.val far.z.val ≤ p.z.val ∧ p.z.val ≤ max near.z.val far.z.val := by
  obtain ⟨near, far⟩ := hc.corners
  have := hc.layer_lt
  have := hc.column_lt
  rw [locate_eq_clamp origin facing hb near, locate_eq_clamp origin facing hb far,
    locate_eq_clamp origin facing hb hc, exact_eq, exact_eq, exact_eq]
  -- Cutting keeps the order, so the ways from the origin are compared before they are cut. Each
  -- falls or rises with the layer or with the column alone.
  constructor <;> apply Coord.clamp_between <;> cases facing <;>
    simp only [shift, across, away, Point.add_x, Point.add_z] <;> omega

/-- No cell of the lowest row is cut, and neither is the level below it. -/
structure GroundFits (origin : Position) (facing : Facing) (extent : Extent) : Prop where
  inWorld : ∀ cell, extent.Has cell → cell.row = 0 → (exact origin facing extent cell).InWorld
  below : -2147483648 ≤ origin.y.val - 1

variable {origin : Position} {facing : Facing} {extent : Extent}

theorem GroundFits.toPoint_locate (h : GroundFits origin facing extent) (hb : extent.Bounded)
    {cell : Cell} (hc : extent.Has cell) (row : cell.row = 0) :
    (locate origin facing extent cell).toPoint = origin.toPoint + shift facing extent cell := by
  rw [locate_eq_clamp origin facing hb hc, Point.toPoint_clamp (h.inWorld cell hc row), exact_eq]

/-- The same on the axes of the rows and of the layers. -/
theorem GroundFits.val_locate (h : GroundFits origin facing extent) (hb : extent.Bounded)
    {cell : Cell} (hc : extent.Has cell) (row : cell.row = 0) :
    (locate origin facing extent cell).x.val = origin.x.val + (shift facing extent cell).x ∧
      (locate origin facing extent cell).z.val = origin.z.val + (shift facing extent cell).z :=
  have place := h.toPoint_locate hb hc row
  ⟨congrArg Point.x place, congrArg Point.z place⟩

theorem GroundFits.val_level (h : GroundFits origin facing extent) :
    (origin.y.sub { val := 1 }).val = origin.y.val - 1 := by
  have := h.below
  have := origin.y.le_greatest
  simp only [Coord.sub, Coord.val_clamp]
  omega

/-- Without a margin the corners of the foundation are one step below those of the room of the
lowest row. -/
theorem GroundFits.footprint_eq (h : GroundFits origin facing extent) (hb : extent.Bounded)
    {cell : Cell} (hc : extent.Has cell) :
    (footprint origin facing extent .zero).1.toPoint + ⟨0, 1, 0⟩ =
        (room origin facing extent.flat).1 ∧
      (footprint origin facing extent .zero).2.toPoint + ⟨0, 1, 0⟩ =
        (room origin facing extent.flat).2 := by
  obtain ⟨near, far⟩ := hc.corners
  obtain ⟨near_x, near_z⟩ := h.val_locate hb near rfl
  obtain ⟨far_x, far_z⟩ := h.val_locate hb far rfl
  have level := h.val_level
  have := hc.layer_lt
  have := hc.column_lt
  -- Which of the two cells has the smaller coordinate depends on the facing, on each axis apart.
  constructor <;> ext <;> cases facing <;>
    simp only [footprint, Coord.val_sub_zero, Coord.val_add_zero, Coord.val_min, Coord.val_max,
      level, Position.toPoint, room, Extent.flat, floor_half_width, ceil_half_width, shift, across,
      away, Point.add_x, Point.add_y, Point.add_z] at near_x near_z far_x far_z ⊢ <;>
    omega

/-- Without a margin the foundation has the places below the cells of the lowest row. -/
theorem GroundFits.within_footprint_iff (h : GroundFits origin facing extent) (hb : extent.Bounded)
    {cell : Cell} (hc : extent.Has cell) {p : Position} :
    p.Within (footprint origin facing extent .zero).1 (footprint origin facing extent .zero).2 ↔
      ∃ ground, extent.Has ground ∧ ground.row = 0 ∧
        (locate origin facing extent ground).toPoint = p.toPoint + ⟨0, 1, 0⟩ := by
  obtain ⟨low, high⟩ := h.footprint_eq hb hc
  have some_row : 0 < extent.height := Nat.zero_lt_of_lt hc.row_lt
  rw [Position.within_iff_between p _ _ ⟨0, 1, 0⟩, low, high]
  constructor
  · intro hp
    obtain ⟨ground, hg, he⟩ := exists_cell_of_between hp
    obtain ⟨hg, row⟩ := (Extent.flat_has_iff some_row).1 hg
    exact ⟨ground, hg, row, (h.toPoint_locate hb hg row).trans he⟩
  · rintro ⟨ground, hg, row, he⟩
    rw [← he, h.toPoint_locate hb hg row]
    show Point.Between (origin.toPoint + shift facing extent.flat ground) _ _
    exact shift_between_room ((Extent.flat_has_iff some_row).2 ⟨hg, row⟩)

/-- The place of the foundation below a cell of the lowest row. -/
def support (origin : Position) (facing : Facing) (extent : Extent) (ground : Cell) : Position :=
  { locate origin facing extent ground with y := (footprint origin facing extent .zero).1.y }

theorem GroundFits.toPoint_support (h : GroundFits origin facing extent) (hb : extent.Bounded)
    {ground : Cell} (hc : extent.Has ground) (row : ground.row = 0) :
    (support origin facing extent ground).toPoint + ⟨0, 1, 0⟩ =
      (locate origin facing extent ground).toPoint := by
  have place := congrArg Point.y (h.toPoint_locate hb hc row)
  have up : (shift facing extent ground).y = 0 := by
    rw [shift_eq_frame, frame_y, row]
    rfl
  rw [Point.add_y, up] at place
  ext
  · exact Int.add_zero _
  · have level := h.val_level
    simp only [support, footprint, Position.toPoint, Point.add_y, level] at place ⊢
    omega
  · exact Int.add_zero _

/-- Every place of the foundation is the support of one cell. -/
theorem GroundFits.bijOn_support (h : GroundFits origin facing extent) (hb : extent.Bounded)
    {cell : Cell} (hc : extent.Has cell) :
    Set.BijOn (support origin facing extent) {cell | extent.flat.Has cell}
      {p : Position | p.Within (footprint origin facing extent .zero).1
        (footprint origin facing extent .zero).2} := by
  have some_row : 0 < extent.height := Nat.zero_lt_of_lt hc.row_lt
  have flat {ground : Cell} (hg : extent.flat.Has ground) := (Extent.flat_has_iff some_row).1 hg
  refine ⟨?_, ?_, ?_⟩
  · intro ground hg
    obtain ⟨hg, row⟩ := flat hg
    exact (h.within_footprint_iff hb hc).2 ⟨ground, hg, row, (h.toPoint_support hb hg row).symm⟩
  · intro ground hg other ho he
    obtain ⟨hg, row⟩ := flat hg
    obtain ⟨ho, row'⟩ := flat ho
    have same := h.toPoint_support hb hg row
    rw [he, h.toPoint_support hb ho row', h.toPoint_locate hb ho row',
      h.toPoint_locate hb hg row] at same
    exact shift_injective facing extent (Point.add_left_cancel same.symm)
  · intro p hp
    obtain ⟨ground, hg, row, he⟩ := (h.within_footprint_iff hb hc).1 hp
    refine ⟨ground, (Extent.flat_has_iff some_row).2 ⟨hg, row⟩, ?_⟩
    exact Position.eq_of_toPoint_add ((h.toPoint_support hb hg row).trans he)

theorem GroundFits.ncard_footprint (h : GroundFits origin facing extent) (hb : extent.Bounded)
    {cell : Cell} (hc : extent.Has cell) :
    {p : Position | p.Within (footprint origin facing extent .zero).1
      (footprint origin facing extent .zero).2}.ncard = extent.width * extent.depth := by
  have places := h.bijOn_support hb hc
  rw [← places.image_eq, places.injOn.ncard_image, Extent.ncard_has]
  show extent.depth * 1 * extent.width = _
  rw [Nat.mul_one, Nat.mul_comm]

end Geometry

namespace Plan

/-- The coordinates on one axis of the cells of the lowest row. -/
def lowestRow (plan : Plan) (axis : Position → Coord) : Set Int :=
  {n | ∃ placement ∈ plan.placements, placement.cell.row = 0 ∧ (axis placement.position).val = n}

/-- On an axis the foundation goes from the least coordinate of the ground to the greatest, and on
both sides as far as the margin says. -/
def Spans (plan : Plan) (margin : Int) (foundation : Foundation) (axis : Position → Coord) : Prop :=
  ∃ least greatest,
    IsLeast (plan.lowestRow axis) least ∧ IsGreatest (plan.lowestRow axis) greatest ∧
    axis foundation.low = .clamp (least - margin) ∧
    axis foundation.high = .clamp (greatest + margin)

/-- Two placements of the lowest row that have all others between them tell its ends. -/
theorem spans_of_between {plan : Plan} {margin : Int} {foundation : Foundation}
    {axis : Position → Coord} {near far : Placement}
    (hn : near ∈ plan.placements) (near_row : near.cell.row = 0) (hf : far ∈ plan.placements)
    (far_row : far.cell.row = 0)
    (between : ∀ placement ∈ plan.placements,
      min (axis near.position).val (axis far.position).val ≤ (axis placement.position).val ∧
        (axis placement.position).val ≤ max (axis near.position).val (axis far.position).val)
    (low : axis foundation.low =
      .clamp (min (axis near.position).val (axis far.position).val - margin))
    (high : axis foundation.high =
      .clamp (max (axis near.position).val (axis far.position).val + margin)) :
    plan.Spans margin foundation axis := by
  have at_near : (axis near.position).val ∈ plan.lowestRow axis := ⟨near, hn, near_row, rfl⟩
  have at_far : (axis far.position).val ∈ plan.lowestRow axis := ⟨far, hf, far_row, rfl⟩
  refine ⟨_, _, ⟨?_, ?_⟩, ⟨?_, ?_⟩, low, high⟩
  · rcases min_choice (axis near.position).val (axis far.position).val with h | h <;> rw [h]
    · exact at_near
    · exact at_far
  · rintro n ⟨placement, hp, -, rfl⟩
    exact (between placement hp).1
  · rcases max_choice (axis near.position).val (axis far.position).val with h | h <;> rw [h]
    · exact at_near
    · exact at_far
  · rintro n ⟨placement, hp, -, rfl⟩
    exact (between placement hp).2

section Make

variable {template : Template} (anchor : Position) (facing : Facing) (settings : Settings)

theorem foundation_make {base : Base} (given : base ∈ template.base) :
    let plan := make template anchor facing settings
    let corners := Geometry.footprint plan.origin facing template.extent (margin base).1
    plan.foundation = some ⟨base.block, corners.1, corners.2⟩ :=
  congrArg (Option.map _) given

/-- On both axes the lowest row of a plan ends at the two cells that its foundation is made from. -/
theorem spans_make (bounded : template.extent.Bounded) {cell : Cell}
    (hc : template.extent.Has cell) (block : Text) (margin : Coord) :
    let plan := make template anchor facing settings
    let corners := Geometry.footprint plan.origin facing template.extent margin
    plan.Spans margin.val ⟨block, corners.1, corners.2⟩ Position.x ∧
      plan.Spans margin.val ⟨block, corners.1, corners.2⟩ Position.z := by
  intro plan corners
  obtain ⟨near, far⟩ := hc.corners
  have placed_mem {cell : Cell} (h : template.extent.Has cell) :
      placed template anchor facing settings cell ∈ plan.placements :=
    (mem_placements ..).2 ⟨cell, h, rfl⟩
  constructor
  · refine spans_of_between (placed_mem near) rfl (placed_mem far) rfl ?_ ?_ ?_
    · intro placement hp
      obtain ⟨cell, h, rfl⟩ := (mem_placements ..).1 hp
      exact (Geometry.locate_between_corners plan.origin facing bounded h).1
    · rw [← Coord.val_min]
      rfl
    · rw [← Coord.val_max]
      rfl
  · refine spans_of_between (placed_mem near) rfl (placed_mem far) rfl ?_ ?_ ?_
    · intro placement hp
      obtain ⟨cell, h, rfl⟩ := (mem_placements ..).1 hp
      exact (Geometry.locate_between_corners plan.origin facing bounded h).2
    · rw [← Coord.val_min]
      rfl
    · rw [← Coord.val_max]
      rfl

end Make

/-- What holds of a foundation that lies under the structure of a plan. -/
structure Supports (plan : Plan) (extent : Extent) (margin : Int) (foundation : Foundation) :
    Prop where
  x : plan.Spans margin foundation Position.x
  z : plan.Spans margin foundation Position.z
  /-- It is one block high, one step below the origin. -/
  y : foundation.low.y = .clamp (plan.origin.y.val - 1) ∧
    foundation.high.y = .clamp (plan.origin.y.val - 1)
  /-- Without a margin and while nothing is cut, it has a place for each cell of the lowest row,
  right below the cell, and no others. -/
  places : margin = 0 → Geometry.GroundFits plan.origin plan.facing extent →
    {p : Position | p.Within foundation.low foundation.high}.ncard = extent.width * extent.depth ∧
      ∀ p : Position, p.Within foundation.low foundation.high ↔
        ∃ placement ∈ plan.placements, placement.cell.row = 0 ∧
          placement.position.toPoint = p.toPoint + ⟨0, 1, 0⟩

/-- The foundation of a template that was read from a text lies under its structure, wherever that
is placed and however it faces. -/
theorem foundation_supports {source : Text} {template : Template}
    (parsed : Template.parse source = .ok template) (bounded : template.extent.Bounded)
    {base : Base} (given : base ∈ template.base) (anchor : Position) (facing : Facing)
    (settings : Settings) :
    ∃ foundation margin, (make template anchor facing settings).foundation = some foundation ∧
      foundation.block = base.block ∧ base.AsksMargin margin ∧
      (make template anchor facing settings).Supports template.extent margin foundation := by
  have first : template.extent.Has ⟨0, 0, 0⟩ :=
    let ⟨depth, height, width⟩ := (Template.isGrid_of_parse parsed).extent_pos
    ⟨depth, height, width⟩
  have ends := spans_make anchor facing settings bounded first base.block (margin base).1
  refine ⟨_, _, foundation_make anchor facing settings given, rfl, (base.asksMargin_iff _).2 rfl,
    ends.1, ends.2, ⟨rfl, rfl⟩, ?_⟩
  intro none fits
  have zero : (margin base).1 = .zero := Coord.ext none
  rw [zero]
  refine ⟨fits.ncard_footprint bounded first, fun p => ?_⟩
  refine (fits.within_footprint_iff bounded first).trans ?_
  constructor
  · rintro ⟨cell, h, row, he⟩
    exact ⟨_, (mem_placements template anchor facing settings).2 ⟨cell, h, rfl⟩, row, he⟩
  · rintro ⟨placement, hp, row, he⟩
    obtain ⟨cell, h, rfl⟩ := (mem_placements ..).1 hp
    exact ⟨cell, h, row, he⟩

/-- A margin below zero at the corner of a world, and a foundation with a place below each of six
cells. -/
theorem foundation_supports_corner :
    let layers := [" a a a   a a a", " a a a   a a a"]
    let tight := Text.ofLines ("a=stone" :: "> base dirt margin:-1" :: layers)
    let plain := Text.ofLines ("a=stone" :: "> base dirt" :: layers)
    let corner : Position := ⟨.greatest, .least, .zero⟩
    let middle : Position := ⟨.zero, { val := 64 }, { val := -9 }⟩
    (∃ template foundation, Template.parse tight = .ok template ∧
      (make template corner .west .default).foundation = some foundation ∧
      (make template corner .west .default).Supports template.extent (-1) foundation) ∧
    ∃ template foundation, Template.parse plain = .ok template ∧
      (make template middle .east .default).foundation = some foundation ∧
      {p : Position | p.Within foundation.low foundation.high}.ncard = 6 := by
  intro layers tight plain corner middle
  constructor
  · let template := Template.ofLines (Line.ofSource tight)
    have parsed : Template.parse tight = .ok template := by decide +kernel
    have extent : template.extent = ⟨2, 2, 3⟩ := by decide +kernel
    have asked : template.base.map (fun base => (margin base).1.val) = some (-1) := by
      decide +kernel
    have bounded : template.extent.Bounded := extent ▸ ⟨by decide, by decide, by decide⟩
    obtain ⟨base, given, hm⟩ := Option.map_eq_some_iff.1 asked
    obtain ⟨foundation, margin, hf, -, asks, supports⟩ :=
      foundation_supports parsed bounded given corner .west .default
    rw [(base.asksMargin_iff margin).1 asks, hm] at supports
    exact ⟨template, foundation, parsed, hf, supports⟩
  · let template := Template.ofLines (Line.ofSource plain)
    have parsed : Template.parse plain = .ok template := by decide +kernel
    have extent : template.extent = ⟨2, 2, 3⟩ := by decide +kernel
    have asked : template.base.map (fun base => (margin base).1.val) = some 0 := by decide +kernel
    have origin : (make template middle .east .default).origin = middle := by decide +kernel
    have bounded : template.extent.Bounded := extent ▸ ⟨by decide, by decide, by decide⟩
    have fits : Geometry.Fits middle .east template.extent := by
      refine .of_room bounded ?_ ?_ ?_ <;> rw [extent] <;> decide
    have ground : Geometry.GroundFits (make template middle .east .default).origin .east
        template.extent := origin.symm ▸ ⟨fun cell hc _ => fits.inWorld cell hc, by decide⟩
    obtain ⟨base, given, hm⟩ := Option.map_eq_some_iff.1 asked
    obtain ⟨foundation, margin, hf, -, asks, supports⟩ :=
      foundation_supports parsed bounded given middle .east .default
    have six := (supports.places ((base.asksMargin_iff margin).1 asks |>.trans hm) ground).1
    rw [extent] at six
    exact ⟨template, foundation, parsed, hf, six⟩

end Plan

end VoxelTemplate
