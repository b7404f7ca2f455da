import VoxelTemplate.Proofs.Text.Pieces
import VoxelTemplate.Spec

/-! What reading a specification gives, and what reading its identifier again gives. Only the tile
data of a known kind of block depends on the facing, and the tables lead from tile values to tile
values. So the identifier of a specification reads as its name with its tile data turned. -/
namespace VoxelTemplate

namespace Orientation

theorem mem_keys_of_turned? {kind : Orientation} {tile turned : Text} {facing : Facing}
    (h : kind.turned? tile facing = some turned) : tile ∈ kind.keys := by
  obtain ⟨turns, ht, -⟩ := Option.map_eq_some_iff.1 h
  obtain ⟨before, after, he, -⟩ := List.lookup_eq_some_iff.1 ht
  exact List.mem_map.2 ⟨(tile, turns), by simp [he], rfl⟩

theorem turn_north {kind : Orientation} {tile : Text} (h : tile ∈ kind.keys) :
    kind.turn tile .north = tile := by
  rw [turn, turned?_north h]
  rfl

/-- Half turns undo each other in every table. -/
theorem turn_south_south {kind : Orientation} {tile : Text} (h : tile ∈ kind.keys) :
    kind.turn (kind.turn tile .south) .south = tile := by
  revert tile
  cases kind <;> decide

theorem turned?_of_mem_keys {kind : Orientation} {tile : Text} (h : tile ∈ kind.keys)
    (facing : Facing) : kind.turned? tile facing = some (kind.turn tile facing) := by
  revert tile
  cases kind <;> cases facing <;> decide

/-- The tables are closed, and so are the values that stand in for unknown ones. -/
theorem turn_mem_keys (kind : Orientation) (tile : Text) (facing : Facing) :
    kind.turn tile facing ∈ kind.keys := by
  have closed : ∀ known ∈ kind.keys, kind.turn known facing ∈ kind.keys := by
    cases kind <;> cases facing <;> decide
  cases ht : kind.turned? tile facing with
  | none =>
    rw [turn, ht]
    exact kind.fallback_mem_keys
  | some turned => exact closed tile (mem_keys_of_turned? ht)

theorem eq_singleton_of_mem_keys {kind : Orientation} {tile : Text} (h : tile ∈ kind.keys) :
    ' ' ∉ tile ∧ tile.isEmpty = false := by
  revert tile
  cases kind <;> decide

end Orientation

namespace Spec

/-- The count of a summon, the words of the text without it, and what is wrong with it. -/
def taken (raw : Text) : UInt32 × List Text × List Diagnostic :=
  if (cut raw).1 then takeCount raw (cut raw).2 else (1, (cut raw).2, [])

def name (raw : Text) : Text := (taken raw).2.1.headD []

/-- The words after the name. -/
def tail (raw : Text) : List Text := (taken raw).2.1.tail

theorem read_eq (settings : Settings) (facing : Facing) (raw : Text) :
    read settings facing raw =
      ({ id := name raw
         tile := (turnTile (name raw) facing (tail raw)).1
         kind := if (cut raw).1 then .entity (taken raw).1 else .block
         attachment := settings.attaches raw },
        (taken raw).2.2 ++ (turnTile (name raw) facing (tail raw)).2) := rfl

theorem mem_cut {raw word : Text} (h : word ∈ (cut raw).2) : ' ' ∉ word := by
  unfold cut at h
  split at h
  · split at h <;> exact Text.not_mem_of_mem_split h
  · exact Text.not_mem_of_mem_split h

theorem takeCount_subset (raw : Text) (words : List Text) : (takeCount raw words).2.1 ⊆ words := by
  unfold takeCount
  split
  · split
    · exact List.Subset.refl _
    · split <;> simp
  · exact List.Subset.refl _

theorem not_mem_name (raw : Text) : ' ' ∉ name raw := by
  have words : ∀ word ∈ (taken raw).2.1, ' ' ∉ word := by
    intro word h
    unfold taken at h
    split at h
    · exact mem_cut (takeCount_subset _ _ h)
    · exact mem_cut h
  unfold name
  cases hw : (taken raw).2.1 with
  | nil => simp
  | cons word rest => exact words word (by simp [hw])

/-- The tile value that a word after the name means; a word without characters has one too. -/
def authored (word : Text) : Text := if word.isEmpty then impliedTile else word

theorem turnTile_of_none {id : Text} (h : Orientation.ofBlock? id = none) (facing : Facing)
    (word : Text) (words : List Text) :
    turnTile id facing (word :: words) = (some (Text.join [' '] (word :: words)), []) := by
  simp only [turnTile, h]

/-- A known kind of block is turned, and its word is reported if the table does not have it. -/
theorem turnTile_of_some {id : Text} {kind : Orientation} (h : Orientation.ofBlock? id = some kind)
    (facing : Facing) (word : Text) (words : List Text) :
    turnTile id facing (word :: words) = (some (kind.turn (authored word) facing),
      if authored word ∈ kind.keys then [] else [.unknownTile kind (authored word)]) := by
  unfold authored
  by_cases known : (if word.isEmpty then impliedTile else word) ∈ kind.keys
  · simp only [turnTile, h, Orientation.turned?_of_mem_keys known, if_pos known]
  · have unknown : kind.turned? (if word.isEmpty then impliedTile else word) facing = none := by
      rw [Option.eq_none_iff_forall_ne_some]
      exact fun turned ht => known (Orientation.mem_keys_of_turned? ht)
    simp only [turnTile, h, unknown, if_neg known, Orientation.turn, Option.getD_none]

/-- The name is one word, and the tile data of a known kind of block is a value of its table. -/
structure IsNormal (spec : Spec) : Prop where
  id : ' ' ∉ spec.id
  tile : ∀ tile ∈ spec.tile, ∀ kind, Orientation.ofBlock? spec.id = some kind → tile ∈ kind.keys

theorem isNormal_read (settings : Settings) (facing : Facing) (raw : Text) :
    IsNormal (read settings facing raw).1 := by
  rw [read_eq]
  refine ⟨not_mem_name raw, ?_⟩
  intro tile ht kind hk
  dsimp only at ht hk
  cases hw : tail raw with
  | nil => simp [hw, turnTile] at ht
  | cons word words =>
    rw [hw, turnTile_of_some hk] at ht
    obtain rfl : _ = tile := Option.some.inj ht
    exact kind.turn_mem_keys _ facing

/-- The tile data of a name, turned from north to a facing. -/
def retile (id : Text) (facing : Facing) (tile : Text) : Text :=
  match Orientation.ofBlock? id with
  | none => tile
  | some kind => kind.turn tile facing

theorem turnTile_split {id tile : Text}
    (h : ∀ kind, Orientation.ofBlock? id = some kind → tile ∈ kind.keys) (facing : Facing) :
    turnTile id facing (Text.split ' ' tile) = (some (retile id facing tile), []) := by
  unfold retile
  cases hk : Orientation.ofBlock? id with
  | none =>
    obtain ⟨word, words, hw⟩ := List.exists_cons_of_ne_nil (Text.splitWhere_ne_nil (· = ' ') tile)
    have whole := Text.join_split ' ' tile
    simp only [Text.split, hw] at whole ⊢
    rw [turnTile_of_none hk, whole]
  | some kind =>
    have known := h kind hk
    obtain ⟨single, full⟩ := Orientation.eq_singleton_of_mem_keys known
    have word : authored tile = tile := by simp [authored, full]
    rw [Text.split_of_not_mem single, turnTile_of_some hk, word, if_pos known]

theorem cut_of_head? {text : Text} (h : text.head? ≠ some summonMark) :
    cut text = (false, Text.split ' ' text) := by
  cases text with
  | nil => rfl
  | cons c rest =>
    have hc : c ≠ summonMark := by simpa using h
    simp [cut, hc]

/-- A text that does not look like a summon is a block: its first word, turned as the other words
say. -/
theorem read_block {raw : Text} (mark : raw.head? ≠ some summonMark) (settings : Settings)
    (facing : Facing) {id : Text} {words : List Text} (h : Text.split ' ' raw = id :: words) :
    read settings facing raw =
      ({ id
         tile := (turnTile id facing words).1
         kind := .block
         attachment := settings.attaches raw },
        (turnTile id facing words).2) := by
  have unmarked : cut raw = (false, id :: words) := by
    rw [cut_of_head? mark, h]
  have words_eq : taken raw = (1, id :: words, []) := by
    rw [taken, unmarked]
    rfl
  rw [read_eq, name, tail, words_eq, unmarked]
  rfl

/-- An identifier that does not look like a summon reads as the same name again, with its tile data
turned once more and nothing to report. -/
theorem read_identifier {spec : Spec} (normal : spec.IsNormal)
    (mark : spec.identifier.head? ≠ some summonMark) (settings : Settings) (facing : Facing) :
    read settings facing spec.identifier =
      ({ id := spec.id
         tile := spec.tile.map (retile spec.id facing)
         kind := .block
         attachment := settings.attaches spec.identifier }, []) := by
  have words : Text.split ' ' spec.identifier =
      spec.id :: spec.tile.elim [] (Text.split ' ') := by
    unfold identifier
    cases spec.tile with
    | none => exact Text.split_of_not_mem normal.id
    | some tile =>
      simp only [Text.split_append_cons, Text.split_of_not_mem normal.id]
      rfl
  rw [read_block mark settings facing words]
  cases ht : spec.tile with
  | none => rfl
  | some tile => rw [Option.elim_some, turnTile_split (normal.tile tile ht), Option.map_some]

end Spec
end VoxelTemplate
