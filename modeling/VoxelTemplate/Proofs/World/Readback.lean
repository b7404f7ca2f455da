import VoxelTemplate.Proofs.Dict
import VoxelTemplate.Proofs.Plan.Checked
import VoxelTemplate.Proofs.Spec.Reading
import VoxelTemplate.Proofs.Template.Directives
import VoxelTemplate.Proofs.Template.Phrases
import VoxelTemplate.Proofs.World.Calls

/-! Scripts read back from their text. A name may hold anything but a line feed: coordinates have no
spaces, so the words of a line tell where the name stands. Names that come from a template that was
read have no line feed. -/
namespace VoxelTemplate

section Reader

namespace Position

/-- The coordinates as words. -/
def words (p : Position) : List Text := [p.x.toText, p.y.toText, p.z.toText]

def ofWords? : List Text → Option Position
  | [x, y, z] => do return ⟨← Coord.read? x, ← Coord.read? y, ← Coord.read? z⟩
  | _ => none

end Position

/-- The command of a line, by its first word. Coordinates are three words each; they stand before
the name of a block and behind the name of an entity. -/
def Command.read? (line : Text) : Option Command :=
  match Text.split ' ' line with
  | [] => none
  | verb :: words =>
    if verb = "setblock".toList then
      (Position.ofWords? (words.take 3)).map (setBlock (Text.join [' '] (words.drop 3)))
    else if verb = "summon".toList then
      let size := words.length - 3
      (Position.ofWords? (words.drop size)).map (summon (Text.join [' '] (words.take size)))
    else if verb = "fill".toList then do
      let low ← Position.ofWords? (words.take 3)
      let high ← Position.ofWords? ((words.drop 3).take 3)
      return fill (Text.join [' '] (words.drop 6)) low high
    else none

/-- What stands in front of every command of a script. -/
def Script.lead (slash : Bool) : Text := if slash then ['/'] else []

/-- The commands of a text, one on each line. -/
def Script.read? (slash : Bool) (text : Text) : Option (List Command) :=
  if text.isEmpty then some []
  else (Text.split '\n' text).mapM fun line =>
    (Text.after? (lead slash) line).bind Command.read?

end Reader

section RoundTrip

theorem Coord.not_mem_toText (a : Coord) {c : Char} (hc : Text.isBlank c = true) : c ∉ a.toText :=
  Text.not_mem_of_isBlank a.isWord_toText.unbroken hc

namespace Position

theorem ofWords?_words (p : Position) : ofWords? p.words = some p := by
  simp [ofWords?, words, Coord.read?_toText]

theorem split_toText (p : Position) : Text.split ' ' p.toText = p.words := by
  have whole (a : Coord) : Text.split ' ' a.toText = [a.toText] :=
    Text.split_of_not_mem (a.not_mem_toText (by decide))
  rw [toText, Text.split_append_cons, Text.split_append_cons, whole, whole, whole]
  rfl

end Position

namespace Command

/-- The block or the entity that the command is about. -/
def name : Command → Text
  | setBlock block _ => block
  | summon entity _ => entity
  | fill block _ _ => block

/-- The words of a line: the verb, and the name and the coordinates in their order. -/
def words : Command → List Text
  | setBlock block p => "setblock".toList :: (p.words ++ Text.split ' ' block)
  | summon entity p => "summon".toList :: (Text.split ' ' entity ++ p.words)
  | fill block low high => "fill".toList :: (low.words ++ (high.words ++ Text.split ' ' block))

theorem split_toText (command : Command) : Text.split ' ' command.toText = command.words := by
  cases command with
  | setBlock block p =>
    have parts : toText (setBlock block p) =
        "setblock".toList ++ ' ' :: p.toText ++ ' ' :: block := rfl
    rw [parts, Text.split_append_cons, Text.split_append_cons, p.split_toText]
    rfl
  | summon entity p =>
    have parts : toText (summon entity p) =
        "summon".toList ++ ' ' :: entity ++ ' ' :: p.toText := rfl
    rw [parts, Text.split_append_cons, Text.split_append_cons, p.split_toText]
    rfl
  | fill block low high =>
    have parts : toText (fill block low high) =
        "fill".toList ++ ' ' :: low.toText ++ ' ' :: high.toText ++ ' ' :: block := rfl
    rw [parts, Text.split_append_cons, Text.split_append_cons, Text.split_append_cons,
      low.split_toText, high.split_toText]
    rfl

theorem read?_toText (command : Command) : read? command.toText = some command := by
  unfold read?
  rw [split_toText]
  cases command with
  | setBlock block p =>
    show (Position.ofWords? p.words).map (setBlock (Text.join [' '] (Text.split ' ' block))) = _
    rw [p.ofWords?_words, Text.join_split]
    rfl
  | summon entity p =>
    have size : (Text.split ' ' entity ++ p.words).length - 3 = (Text.split ' ' entity).length := by
      rw [List.length_append]
      rfl
    dsimp only [words]
    rw [if_neg (by decide), if_pos rfl, size, List.drop_left, List.take_left, p.ofWords?_words,
      Text.join_split]
    rfl
  | fill block low high =>
    show (Position.ofWords? low.words).bind (fun low => (Position.ofWords? high.words).bind
      fun high => some (fill (Text.join [' '] (Text.split ' ' block)) low high)) = _
    rw [low.ofWords?_words, high.ofWords?_words, Text.join_split]
    rfl

theorem no_feed_of_mem_words {command : Command} (h : '\n' ∉ command.name) {word : Text}
    (hw : word ∈ command.words) : '\n' ∉ word := by
  have place (p : Position) : ∀ word ∈ p.words, '\n' ∉ word := by
    simp [Position.words, Coord.not_mem_toText _ (show Text.isBlank '\n' = true by decide)]
  have named : ∀ word ∈ Text.split ' ' command.name, '\n' ∉ word := fun word hw feed =>
    h (Text.subset_of_mem_split hw feed)
  cases command with
  | setBlock block p =>
    rcases List.mem_cons.1 hw with rfl | hw
    · decide
    · exact (List.mem_append.1 hw).elim (place p word) (named word)
  | summon entity p =>
    rcases List.mem_cons.1 hw with rfl | hw
    · decide
    · exact (List.mem_append.1 hw).elim (named word) (place p word)
  | fill block low high =>
    rcases List.mem_cons.1 hw with rfl | hw
    · decide
    · rcases List.mem_append.1 hw with hw | hw
      · exact place low word hw
      · exact (List.mem_append.1 hw).elim (place high word) (named word)

theorem no_feed_toText {command : Command} (h : '\n' ∉ command.name) : '\n' ∉ command.toText := by
  rw [← Text.join_split ' ' command.toText, split_toText]
  intro feed
  obtain sep | ⟨word, hw, feed⟩ := Text.mem_join feed
  · contradiction
  · exact no_feed_of_mem_words h hw feed

end Command

namespace Script

/-- No name in a script has a line feed. -/
def Unbroken (script : Script) : Prop := ∀ command ∈ script.commands, '\n' ∉ command.name

variable {script : Script}

/-- Every command of an unbroken script has one line of its text. -/
theorem Unbroken.split_toText (h : script.Unbroken) (some_command : script.commands.toList ≠ []) :
    Text.split '\n' script.toText =
      script.commands.toList.map fun command => lead script.slash ++ command.toText := by
  refine Text.split_join (by simpa using some_command) ?_
  intro line hl
  obtain ⟨command, hc, rfl⟩ := List.mem_map.1 hl
  have feed := Command.no_feed_toText (h command (Array.mem_toList_iff.1 hc))
  cases script.slash <;> simpa [lead] using feed

theorem Unbroken.read?_toText (h : script.Unbroken) :
    read? script.slash script.toText = some script.commands.toList := by
  unfold read?
  by_cases none : script.commands.toList = []
  · have empty : script.toText = [] := by rw [toText, none]; rfl
    rw [empty, none]
    rfl
  · have spoken : script.toText.isEmpty = false := by
      rw [List.isEmpty_eq_false_iff]
      intro empty
      -- A line without characters would be read as a command, and it has no verb.
      have lines := h.split_toText none
      rw [empty] at lines
      have first : [] ∈ Text.split '\n' [] := List.mem_singleton_self []
      obtain ⟨command, -, line⟩ := List.mem_map.1 (lines ▸ first)
      have back := command.read?_toText
      rw [(List.append_eq_nil_iff.1 line).2] at back
      contradiction
    have back : ∀ command ∈ script.commands.toList,
        (Text.after? (lead script.slash) (lead script.slash ++ command.toText)).bind
          Command.read? = some command := by
      intro command hc
      rw [Text.after?_append, Option.bind_some, Command.read?_toText]
    rw [spoken, h.split_toText none, List.mapM_map]
    exact (mapM_eq_some_map (g := id) back).trans (by rw [List.map_id])

end Script

end RoundTrip

section Names

theorem Orientation.no_feed_of_mem_keys {kind : Orientation} {tile : Text} (h : tile ∈ kind.keys) :
    '\n' ∉ tile := by
  revert tile
  cases kind <;> decide

namespace Spec

theorem subset_of_mem_cut {raw word : Text} (h : word ∈ (cut raw).2) : word ⊆ raw := by
  have whole (text : Text) (hw : word ∈ Text.split ' ' text) : word ⊆ text :=
    Text.subset_of_mem_split hw
  unfold cut at h
  split at h
  · next c rest =>
    split at h
    · exact List.subset_cons_of_subset c (whole rest h)
    · exact whole _ h
  · exact whole _ h

theorem taken_subset (raw : Text) : (taken raw).2.1 ⊆ (cut raw).2 := by
  unfold taken
  split
  · exact takeCount_subset _ _
  · exact List.Subset.refl _

theorem identifier_of_action {spec : Spec} {name : Text} (h : spec.action = .create name ∨
    ∃ count, spec.action = .summon name count) : name = spec.identifier := by
  unfold action at h
  cases hk : spec.kind with
  | block =>
    rw [hk] at h
    obtain h | ⟨count, h⟩ := h
    · exact (Action.create.inj h).symm
    · contradiction
  | entity count =>
    rw [hk] at h
    obtain h | ⟨count, h⟩ := h
    · contradiction
    · exact (Action.summon.inj h).1.symm

/-- A specification puts nothing into a name but what was written, spaces and tile values. -/
theorem no_feed_identifier {raw : Text} (h : '\n' ∉ raw) (settings : Settings) (facing : Facing) :
    '\n' ∉ (read settings facing raw).1.identifier := by
  have word : ∀ word ∈ (taken raw).2.1, '\n' ∉ word := fun word hw feed =>
    h (subset_of_mem_cut (taken_subset raw hw) feed)
  have id : '\n' ∉ name raw := by
    unfold name
    cases hw : (taken raw).2.1 with
    | nil => simp
    | cons first rest => exact word first (by simp [hw])
  have tail : ∀ word ∈ tail raw, '\n' ∉ word := fun w hw => word w (List.mem_of_mem_tail hw)
  rw [read_eq, identifier]
  cases hw : Spec.tail raw with
  | nil => exact id
  | cons first rest =>
    have tile : ∃ tile, (turnTile (name raw) facing (first :: rest)).1 = some tile ∧
        '\n' ∉ tile := by
      cases hk : Orientation.ofBlock? (name raw) with
      | none =>
        rw [turnTile_of_none hk]
        refine ⟨_, rfl, fun feed => ?_⟩
        obtain sep | ⟨piece, hp, feed⟩ := Text.mem_join feed
        · contradiction
        · exact tail piece (hw ▸ hp) feed
      | some kind =>
        rw [turnTile_of_some hk]
        exact ⟨_, rfl, Orientation.no_feed_of_mem_keys (kind.turn_mem_keys _ facing)⟩
    obtain ⟨tile, ht, feed⟩ := tile
    simp only [ht, List.mem_append, List.mem_cons, not_or]
    exact ⟨id, by decide, feed⟩

end Spec

theorem Line.no_feed_of_mem_ofSource {source : Text} {placed : Text × Span}
    (h : placed ∈ ofSource source) : '\n' ∉ placed.1 := by
  have line : placed.1 ∈ (Text.split '\n' source).map dropReturn :=
    placeFrom_map_fst 0 _ ▸ List.mem_map_of_mem h
  obtain ⟨raw, hr, he⟩ := List.mem_map.1 line
  intro feed
  rw [← he] at feed
  exact Text.not_mem_of_mem_split hr ((dropReturn_sublist raw).subset feed)

namespace Template

variable {source : Text}

theorem exists_of_mem_said {line : Line} (h : line ∈ said source) :
    ∃ text, Line.Says text line ∧ '\n' ∉ text := by
  obtain ⟨placed, hp, rfl⟩ := List.mem_map.1 h
  exact ⟨placed.1, Line.says_read placed.1, Line.no_feed_of_mem_ofSource hp⟩

variable {template : Template} (parsed : parse source = .ok template)
include parsed

theorem no_feed_of_spec? {key raw : Text} (h : template.spec? key = some raw) : '\n' ∉ raw := by
  obtain ⟨text, meant, feed⟩ := exists_of_mem_said (definition_mem_said parsed h)
  cases meant with
  | definition _ parts =>
    rw [parts] at feed
    intro hm
    have whole := (Text.trim_sublist _).subset hm
    exact feed (List.mem_append_right _ (List.mem_cons_of_mem _ whole))

theorem no_feed_of_base {base : Base} (h : base ∈ template.base) : '\n' ∉ base.block := by
  obtain ⟨-, rfl⟩ := eq_ofLines_of_parse parsed
  have given : base ∈ bases (Line.ofSource source) := List.mem_of_getLast? h
  rw [bases_eq, List.mem_filterMap] at given
  obtain ⟨line, hl, given⟩ := given
  obtain ⟨text, meant, feed⟩ := exists_of_mem_said hl
  cases meant with
  | @base body _ _ parts =>
    have read : Base.read body = .ok base := by
      cases hb : Base.read body <;> simp_all [Except.toOption]
    obtain ⟨block, words, hw, rfl⟩ := Base.exists_words_of_read read
    rw [parts] at feed
    intro hm
    have word : block ∈ Text.splitWhere Text.isBlank body :=
      List.mem_of_mem_filter (show block ∈ Text.words body by simp [hw])
    exact feed (List.mem_append_right _ (Text.subset_of_mem_splitWhere word hm))
  | comment | layer | offset | definition | ignored => contradiction

end Template

theorem Placement.action_of_mem_commands {placement : Placement} {command : Command}
    (h : command ∈ placement.commands) : placement.action = .create command.name ∨
      ∃ count, placement.action = .summon command.name count := by
  unfold Placement.commands at h
  cases ha : placement.action with
  | create block =>
    rw [ha] at h
    rw [List.mem_singleton.1 h]
    exact .inl rfl
  | summon entity count =>
    rw [ha] at h
    rw [(List.mem_replicate.1 h).2]
    exact .inr ⟨count, rfl⟩

/-- A plan of a template from a text names no block and no entity over a line feed. -/
theorem Plan.no_feed_of_mem_commands {source : Text} {template : Template}
    (parsed : Template.parse source = .ok template) (anchor : Position) (facing : Facing)
    {settings : Settings} (standIn : '\n' ∉ settings.standIn) {command : Command}
    (h : command ∈ (make template anchor facing settings).commands) : '\n' ∉ command.name := by
  rcases List.mem_append.1 h with ground | placed
  · obtain ⟨foundation, hf, rfl⟩ := List.mem_map.1 ground
    obtain ⟨base, hb, rfl⟩ := Option.map_eq_some_iff.1 (Option.mem_toList.1 hf)
    exact Template.no_feed_of_base parsed hb
  · obtain ⟨placement, hp, hc⟩ := List.mem_flatMap.1 placed
    obtain ⟨cell, -, rfl⟩ := (mem_placements ..).1 hp
    have raw : '\n' ∉ (rawSpec template settings cell).1 := by
      unfold rawSpec
      dsimp only
      split
      · next raw hs => exact Template.no_feed_of_spec? parsed hs
      · exact standIn
    have id := Spec.no_feed_identifier raw settings facing
    have action := Placement.action_of_mem_commands hc
    rw [placed_action] at action
    rw [Spec.identifier_of_action action]
    exact id

end Names

namespace Script

/-- Commands whose names have no line feed come back from their text, one from each line; so two
scripts of one text have the same commands. What a template from a text records behind the commands
of a script are such commands, if the stand-in is one. -/
theorem toText_loses_nothing :
    (∀ script : Script, script.Unbroken →
      read? script.slash script.toText = some script.commands.toList ∧
        (script.commands ≠ #[] →
          (Text.split '\n' script.toText).length = script.commands.size)) ∧
    (∀ script other : Script, script.Unbroken → other.Unbroken → script.slash = other.slash →
      script.toText = other.toText → script.commands = other.commands) ∧
    ∀ (source : Text) (template : Template), Template.parse source = .ok template →
      ∀ (anchor : Position) (facing : Facing) (settings : Settings) (script : Script),
        '\n' ∉ settings.standIn → ∃ recorded : List Command,
          (Plan.build template anchor facing settings script).2.commands.toList =
            script.commands.toList ++ recorded ∧
          ∀ command ∈ recorded, '\n' ∉ command.name := by
  refine ⟨?_, ?_, ?_⟩
  · intro script h
    refine ⟨h.read?_toText, fun some_command => ?_⟩
    rw [h.split_toText (by simpa using some_command), List.length_map, Array.length_toList]
  · intro script other h ho slash text
    have back := h.read?_toText
    rw [slash, text, ho.read?_toText] at back
    exact Array.toList_inj.1 (Option.some.inj back).symm
  · intro source template parsed anchor facing settings script standIn
    refine ⟨(Plan.make template anchor facing settings).commands, ?_, ?_⟩
    · have run := Script.run_eq_extend (Plan.make template anchor facing settings) script
      show ((Plan.make template anchor facing settings).run script).commands.toList = _
      rw [run]
      simp [extend]
    · exact fun command hc => Plan.no_feed_of_mem_commands parsed anchor facing standIn hc

/-- Names without characters, with numbers at either end and of blanks only; and a template with
tile data that no table knows. -/
theorem toText_loses_nothing_numbers :
    let low : Position := ⟨{ val := -1 }, { val := 64 }, { val := 2147483647 }⟩
    let high : Position := ⟨.greatest, .least, .zero⟩
    let script : Script :=
      ⟨true, #[.setBlock "-5 7".toList low, .summon "cow 1 2 3".toList high, .summon [] low,
        .fill "  ".toList low high], #[]⟩
    let source := Text.ofLines ["a=log 4 -1", "b=$cow count:2", "> base dirt margin:1", " a b c"]
    let template := Template.ofLines (Line.ofSource source)
    script.Unbroken ∧ read? true script.toText = some script.commands.toList ∧
      (Text.split '\n' script.toText).length = 4 ∧
      Template.parse source = .ok template ∧ '\n' ∉ Settings.default.standIn ∧
      ∃ recorded : List Command,
        (Plan.build template low .east .default script).2.commands.toList =
          script.commands.toList ++ recorded ∧
        recorded.length = 5 ∧ ∀ command ∈ recorded, '\n' ∉ command.name := by
  intro low high script source template
  have unbroken : script.Unbroken := by
    unfold Unbroken
    decide
  have parsed : Template.parse source = .ok template := by decide +kernel
  have standIn : '\n' ∉ Settings.default.standIn := by decide
  obtain ⟨alone, -, built⟩ := toText_loses_nothing
  obtain ⟨back, lines⟩ := alone script unbroken
  obtain ⟨recorded, behind, feed⟩ := built source template parsed low .east .default script standIn
  have number : (Plan.build template low .east .default script).2.commands.toList.length = 9 := by
    decide +kernel
  refine ⟨unbroken, back, lines (by simp [script]), parsed, standIn, recorded, behind, ?_, feed⟩
  rw [behind, List.length_append] at number
  exact Nat.add_left_cancel (n := 4) number

end Script

end VoxelTemplate
