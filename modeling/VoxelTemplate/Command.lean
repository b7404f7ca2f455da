import VoxelTemplate.World
/-! Game commands, and the worlds that keep the calls made to them as commands. -/
namespace VoxelTemplate

inductive Command where
  | setBlock (block : Text) (position : Position)
  | summon (entity : Text) (position : Position)
  | fill (block : Text) (low high : Position)
deriving DecidableEq

namespace Command

/-- The command as it is typed. A name may hold spaces; the numbers beside it say where it ends. -/
def toText : Command → Text
  | setBlock block position => "setblock ".toList ++ position.toText ++ ' ' :: block
  | summon entity position => "summon ".toList ++ entity ++ ' ' :: position.toText
  | fill block low high =>
    "fill ".toList ++ low.toText ++ ' ' :: high.toText ++ ' ' :: block

end Command

/-- A world that keeps its calls in order, and the reports beside them. -/
structure Script where
  /-- Whether commands are written with a `/` in front. -/
  slash : Bool := true
  commands : Array Command := #[]
  reports : Array Text := #[]

namespace Script

def record (command : Command) (script : Script) : Script :=
  { script with commands := script.commands.push command }

instance : World Script where
  create block position := record (.setBlock block position)
  summon entity position := record (.summon entity position)
  fill block low high := record (.fill block low high)
  log message script := { script with reports := script.reports.push message }

def toText (script : Script) : Text :=
  let lead := if script.slash then ['/'] else []
  Text.join ['\n'] (script.commands.toList.map fun command => lead ++ command.toText)

end Script

/-- A bare list of calls is a world that lets reports pass. -/
instance : World (Array Command) where
  create block position calls := calls.push (.setBlock block position)
  summon entity position calls := calls.push (.summon entity position)
  fill block low high calls := calls.push (.fill block low high)
  log _ calls := calls

end VoxelTemplate
