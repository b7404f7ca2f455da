import VoxelTemplate.Diagnostic
/-! Block specifications: `stone`, `oak_stairs 3`, a summon `$chicken` or `$chicken count:3`; and
what each comes to for one facing. -/
namespace VoxelTemplate

structure Settings where
  /-- Stands wherever a key has no definition. -/
  standIn : Text
  /-- A specification with one of these in it needs a solid neighbour. -/
  attachmentWords : List Text
deriving DecidableEq, Repr

namespace Settings

def default : Settings where
  standIn := "magenta_glazed_terracotta".toList
  attachmentWords := ["torch".toList, "lantern".toList, "vine".toList, "bell".toList]

instance : Inhabited Settings := ⟨default⟩

def attaches (settings : Settings) (raw : Text) : Bool :=
  settings.attachmentWords.any fun keyword => Text.contains keyword raw

end Settings

/-- The two passes of a placement; attachments come after every solid block. -/
inductive Pass where
  | solid | attachment
deriving DecidableEq, Repr

/-- What happens at one position. -/
inductive Action where
  | create (block : Text)
  | summon (entity : Text) (count : UInt32)
deriving DecidableEq, Repr

inductive Spec.Kind where
  | block
  | entity (count : UInt32)
deriving DecidableEq, Repr

/-- A specification turned to a facing. -/
structure Spec where
  id : Text
  tile : Option Text
  kind : Spec.Kind
  attachment : Bool
deriving DecidableEq, Repr

namespace Spec

def summonMark : Char := '$'

def countMark : Text := "count:".toList

/-- The tile data meant by a space with nothing after it. -/
def impliedTile : Text := ['2']

def readCount? (text : Text) : Option UInt32 :=
  (Numeral.unsigned? text).bind fun n => if n < 4294967296 then some (UInt32.ofNat n) else none

/-- Whether the text is a summon, and the words of the text after the mark. -/
def cut (raw : Text) : Bool × List Text :=
  match raw with
  | c :: rest => if c = summonMark then (true, Text.split ' ' rest) else (false, Text.split ' ' raw)
  | [] => (false, Text.split ' ' raw)

/-- The count in the second word of a summon, and the words without it. -/
def takeCount (raw : Text) : List Text → UInt32 × List Text × List Diagnostic
  | id :: second :: words =>
    match Text.after? countMark second with
    | none => (1, id :: second :: words, [])
    | some value => match readCount? value with
      | some count => (count, id :: words, [])
      | none => (1, id :: words, [.invalidCount raw value])
  | words => (1, words, [])

/-- The words after the name, turned to the facing where the name has a table. The table reads one
word, and words after it are dropped; a name without a table keeps all its words. -/
def turnTile (id : Text) (facing : Facing) : List Text → Option Text × List Diagnostic
  | [] => (none, [])
  | word :: words =>
    match Orientation.ofBlock? id with
    | none => (some (Text.join [' '] (word :: words)), [])
    | some kind =>
      let authored := if word.isEmpty then impliedTile else word
      match kind.turned? authored facing with
      | some turned => (some turned, [])
      | none => (some kind.fallback, [.unknownTile kind authored])

/-- What a specification comes to, and the problems met on the way. -/
def read (settings : Settings) (facing : Facing) (raw : Text) : Spec × List Diagnostic :=
  let (summon, words) := cut raw
  let (count, words, countProblems) := if summon then takeCount raw words else (1, words, [])
  let id := words.headD []
  let (tile, tileProblems) := turnTile id facing words.tail
  ({ id, tile, kind := if summon then .entity count else .block,
     attachment := settings.attaches raw }, countProblems ++ tileProblems)

/-- The name with what follows it. -/
def identifier (spec : Spec) : Text :=
  match spec.tile with
  | some tile => spec.id ++ ' ' :: tile
  | none => spec.id

def pass (spec : Spec) : Pass := if spec.attachment then .attachment else .solid

def action (spec : Spec) : Action :=
  match spec.kind with
  | .block => .create spec.identifier
  | .entity count => .summon spec.identifier count

end Spec
end VoxelTemplate
