import VoxelTemplate.Proofs.Plan.Passes
import VoxelTemplate.Proofs.Spec.Reading

/-! Blocks of a structure that faces west beside those of the same structure facing east. Their
places are half turns of each other, and so are the looks of all blocks but torches that look east or
west: for both facings these come to look the same way. -/
namespace VoxelTemplate

namespace Orientation

theorem eq_name_of_ofBlock? {block : Text} (h : ofBlock? block = some torch) :
    block = torch.name := by
  unfold ofBlock? at h
  split at h
  · contradiction
  · have same := List.find?_some h
    simp only [decide_eq_true_eq] at same
    exact same.symm

/-- In every table but that of torches the west column is the half turn of the east column. -/
theorem turn_south_iff {kind : Orientation} {tile : Text} (h : tile ∈ kind.keys) :
    (kind.turn (kind.turn tile .east) .south = kind.turn tile .west ↔
        ¬ (kind = torch ∧ (tile = ['1'] ∨ tile = ['2']))) ∧
      (kind.turn (kind.turn tile .west) .south = kind.turn tile .east ↔
        ¬ (kind = torch ∧ (tile = ['1'] ∨ tile = ['2']))) ∧
      (kind = torch ∧ (tile = ['1'] ∨ tile = ['2']) → kind.turn tile .east = kind.turn tile .west) := by
  revert tile
  cases kind <;> decide

end Orientation

namespace Spec

theorem head?_identifier (spec : Spec) :
    spec.identifier.head? = some summonMark ↔ spec.id.head? = some summonMark := by
  unfold identifier
  cases spec.tile with
  | none => exact Iff.rfl
  | some tile =>
    cases spec.id with
    | nil => simp [summonMark]
    | cons c id => exact Iff.rfl

/-- Specifications of one name differ by their tile data. -/
theorem identifier_inj {a b : Spec} (h : a.id = b.id) :
    a.identifier = b.identifier ↔ a.tile = b.tile := by
  unfold identifier
  rw [h]
  cases a.tile <;> cases b.tile <;> simp

/-- What a specification is called in a world, for a facing. -/
def named (settings : Settings) (facing : Facing) (raw : Text) : Text :=
  (read settings facing raw).1.identifier

/-- Facing north this is a torch that looks east or west. -/
def IsSideTorch (settings : Settings) (raw : Text) : Prop :=
  (read settings .north raw).1.id = "torch".toList ∧
    ((read settings .north raw).1.tile = some ['1'] ∨
      (read settings .north raw).1.tile = some ['2'])

/-- Turning a name that was read once turns its tile data. -/
theorem named_named {settings : Settings} {facing : Facing} {raw : Text}
    (mark : (named settings facing raw).head? ≠ some summonMark) (settings' : Settings)
    (facing' : Facing) (spec : Spec) (id : spec.id = name raw) :
    named settings' facing' (named settings facing raw) = spec.identifier ↔
      (read settings facing raw).1.tile.map (retile (name raw) facing') = spec.tile := by
  rw [named, named, read_identifier (isNormal_read ..) mark, identifier_inj (by rw [id]; rfl)]
  rfl

/-- The tile data facing west is the half turn of the tile data facing east, unless the block is a
torch that looks to the side. -/
theorem map_retile_south_iff (settings : Settings) {raw : Text}
    (known : (turnTile (name raw) .east (tail raw)).2 = []) :
    ((read settings .east raw).1.tile.map (retile (name raw) .south) =
        (read settings .west raw).1.tile ↔ ¬ IsSideTorch settings raw) ∧
      ((read settings .west raw).1.tile.map (retile (name raw) .south) =
        (read settings .east raw).1.tile ↔ ¬ IsSideTorch settings raw) ∧
      (IsSideTorch settings raw →
        (read settings .east raw).1.tile = (read settings .west raw).1.tile) := by
  simp only [IsSideTorch, read_eq]
  cases hw : tail raw with
  | nil => simp [turnTile]
  | cons word words =>
    rw [hw] at known
    unfold retile
    cases hk : Orientation.ofBlock? (name raw) with
    | none =>
      have other : name raw ≠ "torch".toList := by
        intro h
        rw [h] at hk
        revert hk
        decide
      simp only [turnTile_of_none hk, other, false_and, not_false_eq_true, Option.map_some]
      simp
    | some kind =>
      rw [turnTile_of_some hk] at known
      -- Nothing was reported, so the table has the value, and facing north shows it as written.
      have mem : authored word ∈ kind.keys := by
        by_contra h
        simp [h] at known
      have north := Orientation.turn_north mem
      have torch : name raw = "torch".toList ↔ kind = .torch := by
        constructor
        · intro h
          rw [h] at hk
          exact Option.some.inj (hk.symm.trans (by decide))
        · rintro rfl
          exact Orientation.eq_name_of_ofBlock? hk
      simp only [turnTile_of_some hk, Option.map_some, Option.some.injEq, north, torch]
      exact Orientation.turn_south_iff mem

theorem head?_named_ne {settings : Settings} {facing : Facing} {raw : Text}
    (mark : (named settings facing raw).head? ≠ some summonMark) (other : Facing) :
    (named settings other raw).head? ≠ some summonMark := by
  rw [named, ne_eq, head?_identifier] at mark ⊢
  exact mark

variable {settings : Settings} {raw : Text}

/-- What a plan creates at a cell facing one way, it creates facing any other way, under the name
for that facing. -/
theorem action_eq_create {template : Template} {a b : Position} {facing other : Facing}
    {p q : Placement} (hp : p ∈ (Plan.make template a facing settings).placements)
    (hq : q ∈ (Plan.make template b other settings).placements) (cell : p.cell = q.cell)
    (hr : Plan.raw template settings p.cell = raw) {block : Text} (hc : p.action = .create block) :
    block = named settings facing raw ∧ q.action = .create (named settings other raw) := by
  obtain ⟨at_p, -, rfl⟩ := (Plan.mem_placements ..).1 hp
  obtain ⟨at_q, -, rfl⟩ := (Plan.mem_placements ..).1 hq
  obtain rfl : at_p = at_q := cell
  have hr : (Plan.rawSpec template settings at_p).1 = raw := (Plan.rawSpec_fst ..).trans hr
  simp only [Plan.placed_action, Plan.resolved, hr, action, read_eq] at hc ⊢
  cases hs : (cut raw).1 with
  | true => simp [hs] at hc
  | false =>
    simp only [hs, Bool.false_eq_true, ↓reduceIte, Action.create.injEq] at hc ⊢
    exact ⟨hc.symm, rfl⟩

/-- Read without reports, a block facing west is the half turn of the block facing east, in every
plan too, unless it is a torch that looks to the side; that one is the same for both facings. -/
theorem half_turned_looks_iff (settings settings' : Settings) {raw : Text}
    (known : (read settings .east raw).2 = [])
    (mark : (named settings .east raw).head? ≠ some summonMark) :
    (named settings' .south (named settings .east raw) = named settings .west raw ↔
        ¬ IsSideTorch settings raw) ∧
      (named settings' .south (named settings .west raw) = named settings .east raw ↔
        ¬ IsSideTorch settings raw) ∧
      (IsSideTorch settings raw → named settings .east raw = named settings .west raw) ∧
      ∀ (template : Template) (a b : Position),
        ∀ p ∈ (Plan.make template a .east settings).placements,
        ∀ q ∈ (Plan.make template b .west settings).placements, p.cell = q.cell →
          Plan.raw template settings p.cell = raw → ∀ block, p.action = .create block →
            (q.action = .create (named settings' .south block) ↔ ¬ IsSideTorch settings raw) := by
  rw [read_eq] at known
  obtain ⟨there, back, same⟩ :=
    map_retile_south_iff settings (List.append_eq_nil_iff.1 known).2
  have turned : named settings' .south (named settings .east raw) = named settings .west raw ↔
      ¬ IsSideTorch settings raw :=
    (named_named mark settings' .south (read settings .west raw).1 rfl).trans there
  refine ⟨turned, ?_, ?_, ?_⟩
  · exact (named_named (head?_named_ne mark .west) settings' .south
      (read settings .east raw).1 rfl).trans back
  · intro h
    have id : (read settings .east raw).1.id = (read settings .west raw).1.id := rfl
    exact (identifier_inj id).2 (same h)
  · intro template a b p hp q hq cell hr block hc
    obtain ⟨rfl, hq⟩ := action_eq_create hp hq cell hr hc
    rw [hq, Action.create.injEq, eq_comm, turned]

/-- A vine is turned, while a torch that looks to the side would not be. -/
theorem half_turned_looks_iff_vine :
    let raw := "vine 4".toList
    (read .default .east raw).2 = [] ∧ (named .default .east raw).head? ≠ some summonMark ∧
      ¬ IsSideTorch .default raw ∧
      named .default .south (named .default .east raw) = named .default .west raw ∧
      named .default .south (named .default .west raw) = named .default .east raw := by
  intro raw
  have known : (read .default .east raw).2 = [] := by decide
  have mark : (named .default .east raw).head? ≠ some summonMark := by decide
  have other : ¬ IsSideTorch .default raw := by
    rintro ⟨id, -⟩
    revert id
    decide
  obtain ⟨there, back, -⟩ := half_turned_looks_iff .default .default known mark
  exact ⟨known, mark, other, there.2 other, back.2 other⟩

/-- A torch that looks east comes to look north facing east, and facing west too. -/
theorem torch_west_not_half_turned :
    let raw := "torch 1".toList
    (read .default .east raw).2 = [] ∧ (read .default .west raw).2 = [] ∧
      (named .default .east raw).head? ≠ some summonMark ∧
      named .default .south (named .default .east raw) = "torch 3".toList ∧
      named .default .west raw = "torch 4".toList := by
  decide

end Spec
end VoxelTemplate
