import VoxelTemplate.Proofs.Spec.Opposite
import VoxelTemplate.Proofs.Spec.Problems

/-! Identifiers as the normal form of specifications. Whatever a specification says, its identifier
is a block that reads as itself, for any settings, and two half turns bring it back. Only a second
mark of a summon in front of the first word is left standing, and makes the identifier a summon. -/
namespace VoxelTemplate.Spec

section Tiles

variable {id tile : Text} (known : ∀ kind, Orientation.ofBlock? id = some kind → tile ∈ kind.keys)
include known

/-- Facing north shows the tile data as they are. -/
theorem retile_north : retile id .north tile = tile := by
  unfold retile
  cases hk : Orientation.ofBlock? id with
  | none => rfl
  | some kind => exact Orientation.turn_north (known kind hk)

theorem retile_south_south : retile id .south (retile id .south tile) = tile := by
  unfold retile
  cases hk : Orientation.ofBlock? id with
  | none => rfl
  | some kind => exact Orientation.turn_south_south (known kind hk)

end Tiles

/-- The same specification with its tile data turned once more. -/
def turned (spec : Spec) (facing : Facing) : Spec :=
  { spec with tile := spec.tile.map (retile spec.id facing) }

@[simp] theorem turned_id (spec : Spec) (facing : Facing) : (spec.turned facing).id = spec.id := rfl

namespace IsNormal

variable {spec : Spec} (normal : spec.IsNormal)
include normal

theorem turned (facing : Facing) : (spec.turned facing).IsNormal := by
  refine ⟨normal.id, ?_⟩
  intro tile ht kind hk
  obtain ⟨before, -, rfl⟩ := Option.map_eq_some_iff.1 ht
  rw [turned_id] at hk
  simp only [retile, hk]
  exact kind.turn_mem_keys before facing

theorem turned_north : spec.turned .north = spec := by
  have same : spec.tile.map (retile spec.id .north) = spec.tile :=
    (Option.map_congr fun tile ht => retile_north (normal.tile tile ht)).trans Option.map_id'
  rw [Spec.turned, same]

theorem turned_south_south : (spec.turned .south).turned .south = spec := by
  have same : (spec.tile.map (retile spec.id .south)).map (retile spec.id .south) = spec.tile := by
    rw [Option.map_map]
    exact (Option.map_congr fun tile ht =>
      retile_south_south (normal.tile tile ht)).trans Option.map_id'
  rw [Spec.turned, Spec.turned, same]

end IsNormal

section Marks

theorem kind_read_eq_block_iff (settings : Settings) (facing : Facing) (raw : Text) :
    (read settings facing raw).1.kind = .block ↔ raw.head? ≠ some summonMark := by
  rw [read_eq]
  cases raw with
  | nil => simp [cut]
  | cons c rest =>
    by_cases hc : c = summonMark <;> simp [cut, hc]

theorem head?_of_marked {raw id : Text} {words : List Text}
    (h : Text.split ' ' raw = ('$' :: id) :: words) :
    id.head? = some summonMark ↔ "$$".toList <+: raw := by
  have other : summonMark ≠ ' ' := by decide
  have mark : raw.head? = some summonMark := (Text.head?_of_split other h).1 rfl
  obtain ⟨rest, rfl⟩ : ∃ rest, raw = summonMark :: rest := List.head?_eq_some_iff.1 mark
  obtain ⟨first, more, hw, hs⟩ := split_mark rest
  obtain ⟨same, -⟩ := List.cons.inj (hs.symm.trans h)
  obtain rfl : first = id := (List.cons.inj same).2
  rw [Text.head?_of_split other hw]
  cases rest with
  | nil => simp [summonMark]
  | cons c rest => simp [summonMark, List.cons_prefix_cons, eq_comm]

/-- One mark is taken from a summon, so its name begins with a mark only if there were two. -/
theorem head?_name (raw : Text) :
    (name raw).head? = some summonMark ↔ "$$".toList <+: raw := by
  rcases taken_cases raw with ⟨id, words, hs, hm, ht⟩ | ⟨id, value, words, hs, ht⟩ |
    ⟨id, words, hs, -, ht⟩
  · have unmarked : (name raw).head? ≠ some summonMark := by
      rw [name, ht]
      exact hm
    refine ⟨fun h => absurd h unmarked, ?_⟩
    rintro ⟨rest, rfl⟩
    exact absurd ((Text.head?_of_split (by decide) hs).2 rfl) hm
  · rw [← head?_of_marked hs, name, ht]
    rfl
  · rw [← head?_of_marked hs, name, ht]
    rfl

end Marks

/-- A text that reads as a block of that name, and that two half turns bring back, whatever the
settings and with nothing to report. -/
structure Settled (id : Text) : Prop where
  block : ∀ settings facing, (read settings facing id).1.kind = .block
  silent : ∀ settings facing, (read settings facing id).2 = []
  north : ∀ settings, named settings .north id = id
  south : ∀ settings other, (read other .south (named settings .south id)).2 = [] ∧
    named other .south (named settings .south id) = id

section Identifier

variable {spec : Spec} (normal : spec.IsNormal)
  (unmarked : spec.identifier.head? ≠ some summonMark)
include normal unmarked

/-- Reading an identifier turns the specification that it stands for. -/
theorem named_identifier (settings : Settings) (facing : Facing) :
    named settings facing spec.identifier = (spec.turned facing).identifier := by
  rw [named, read_identifier normal unmarked]
  rfl

theorem silent_identifier (settings : Settings) (facing : Facing) :
    (read settings facing spec.identifier).2 = [] := by
  rw [read_identifier normal unmarked]

theorem settled_identifier : Settled spec.identifier := by
  have turned_unmarked : (spec.turned .south).identifier.head? ≠ some summonMark := by
    rwa [ne_eq, head?_identifier, turned_id, ← head?_identifier]
  refine ⟨?_, silent_identifier normal unmarked, ?_, ?_⟩
  · exact fun settings facing => (kind_read_eq_block_iff settings facing _).2 unmarked
  · intro settings
    rw [named_identifier normal unmarked, normal.turned_north]
  · intro settings other
    rw [named_identifier normal unmarked,
      named_identifier (normal.turned .south) turned_unmarked, normal.turned_south_south]
    exact ⟨silent_identifier (normal.turned .south) turned_unmarked other .south, rfl⟩

end Identifier

/-- What a specification is called, for any facing, is settled, unless the specification begins with
two marks of a summon: the name of such a summon is a summon again. -/
theorem settled_named_iff (settings : Settings) (facing : Facing) (raw : Text) :
    Settled (named settings facing raw) ↔ ¬ "$$".toList <+: raw := by
  have mark : (named settings facing raw).head? = some summonMark ↔ "$$".toList <+: raw :=
    (head?_identifier _).trans (head?_name raw)
  rw [← mark]
  constructor
  · intro settled
    exact (kind_read_eq_block_iff settings facing _).1 (settled.block settings facing)
  · intro unmarked
    exact settled_identifier (isNormal_read settings facing raw) unmarked

end VoxelTemplate.Spec
