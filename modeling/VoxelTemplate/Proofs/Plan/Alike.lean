import VoxelTemplate.Proofs.Plan.Opposite
import VoxelTemplate.Proofs.Spec.Reading

/-! Plans of one template for any two anchors and facings. They differ in where things come to lie,
and in the tile data of blocks that are turned with the structure; in all else they are the same. -/
namespace VoxelTemplate

/-- Two names of one block. Only a known kind of block has more than one, by the tile data behind
its word, which is a value of its table. -/
inductive SameBlock : Text → Text → Prop where
  | refl (name : Text) : SameBlock name name
  | turned {id tile tile' : Text} {kind : Orientation} (word : ' ' ∉ id)
    (known : Orientation.ofBlock? id = some kind) (ht : tile ∈ kind.keys)
    (ht' : tile' ∈ kind.keys) : SameBlock (id ++ ' ' :: tile) (id ++ ' ' :: tile')

/-- The same happens, as often, with two names of one block or of one entity. -/
inductive Action.Alike : Action → Action → Prop where
  | create {block block' : Text} (h : SameBlock block block') :
    Alike (.create block) (.create block')
  | summon {entity entity' : Text} (h : SameBlock entity entity') (count : UInt32) :
    Alike (.summon entity count) (.summon entity' count)

theorem Action.Alike.calls_eq {a b : Action} (h : a.Alike b) : a.calls = b.calls := by
  cases h <;> rfl

namespace Spec

variable (settings : Settings) (facing facing' : Facing) (raw : Text)

/-- What a table does not know it does not know for any facing. -/
theorem turnTile_snd (id : Text) (words : List Text) :
    (turnTile id facing words).2 = (turnTile id facing' words).2 := by
  cases words with
  | nil => rfl
  | cons word words =>
    cases hk : Orientation.ofBlock? id with
    | none => rw [turnTile_of_none hk, turnTile_of_none hk]
    | some kind => rw [turnTile_of_some hk, turnTile_of_some hk]

theorem read_snd : (read settings facing raw).2 = (read settings facing' raw).2 := by
  rw [read_eq, read_eq, turnTile_snd facing facing']

theorem sameBlock_identifier :
    SameBlock (read settings facing raw).1.identifier (read settings facing' raw).1.identifier := by
  simp only [read_eq, identifier]
  cases tail raw with
  | nil => exact .refl _
  | cons word words =>
    cases hk : Orientation.ofBlock? (name raw) with
    | none =>
      rw [turnTile_of_none hk, turnTile_of_none hk]
      exact .refl _
    | some kind =>
      rw [turnTile_of_some hk, turnTile_of_some hk]
      exact .turned (not_mem_name raw) hk (kind.turn_mem_keys _ facing)
        (kind.turn_mem_keys _ facing')

theorem alike_action : (read settings facing raw).1.action.Alike
    (read settings facing' raw).1.action := by
  have same := sameBlock_identifier settings facing facing' raw
  have kind : (read settings facing raw).1.kind = (read settings facing' raw).1.kind := rfl
  unfold action
  rw [← kind]
  cases (read settings facing raw).1.kind with
  | block => exact .create same
  | entity count => exact .summon same count

end Spec

namespace Plan

/-- Two plans of one structure: the same cells in the same order, each in the same pass and with the
same done to it; the same reports, and foundations of one block. -/
structure Alike (plan other : Plan) : Prop where
  placements : List.Forall₂
    (fun p q => p.cell = q.cell ∧ p.pass = q.pass ∧ p.action.Alike q.action)
    plan.placements other.placements
  diagnostics : plan.diagnostics = other.diagnostics
  foundation : Option.Rel (fun p q => p.block = q.block) plan.foundation other.foundation
  calls : plan.calls = other.calls

variable (template : Template) (settings : Settings) (anchor anchor' : Position)
  (facing facing' : Facing)

theorem alike_placed (cell : Cell) :
    (placed template anchor facing settings cell).action.Alike
      (placed template anchor' facing' settings cell).action :=
  Spec.alike_action settings facing facing' (rawSpec template settings cell).1

theorem place_snd (origin origin' : Position) (cell : Cell) :
    (place template origin facing settings cell).2 =
      (place template origin' facing' settings cell).2 := by
  simp only [place, Spec.read_snd settings facing facing']

theorem diagnostics_eq : (make template anchor facing settings).diagnostics =
    (make template anchor' facing' settings).diagnostics := by
  simp only [make, List.flatMap_map]
  congr 2
  funext cell
  exact place_snd ..

/-- Actions that are alike take equally many calls, one by one and so in sum. -/
theorem foldr_calls_eq {items others : List Placement}
    (h : List.Forall₂ (fun p q => p.action.Alike q.action) items others) :
    items.foldr (fun p calls => p.action.calls + calls) 0 =
      others.foldr (fun p calls => p.action.calls + calls) 0 := by
  induction h with
  | nil => rfl
  | cons alike _ ih => rw [List.foldr_cons, List.foldr_cons, alike.calls_eq, ih]

/-- The anchor and the facing decide where a structure stands and how it is turned, and nothing
about what it is made of. -/
theorem alike_make : Alike (make template anchor facing settings)
    (make template anchor' facing' settings) := by
  have placements : List.Forall₂
      (fun p q => p.cell = q.cell ∧ p.pass = q.pass ∧ p.action.Alike q.action)
      (make template anchor facing settings).placements
      (make template anchor' facing' settings).placements :=
    forall₂_placements fun cell _ => ⟨rfl, rfl, alike_placed ..⟩
  have sum := foldr_calls_eq (placements.imp fun _ _ h => h.2.2)
  have ground : (make template anchor facing settings).foundation.toList.length =
      (make template anchor' facing' settings).foundation.toList.length := by
    simp only [make]
    cases template.base <;> rfl
  refine ⟨placements, diagnostics_eq .., rel_foundation fun base _ => rfl, ?_⟩
  rw [calls, calls, sum, ground]

end Plan
end VoxelTemplate
