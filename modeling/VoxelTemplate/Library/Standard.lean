import VoxelTemplate.Text.Basic
/-! The templates of the standard library. -/
namespace VoxelTemplate.Library

def house : Text := Text.ofLines
  ["# Cottage with a bed, a chest and two wall torches.",
    "# One line per layer, front to back; rows bottom to top.",
    "w=log",
    "p=planks",
    "g=glass_pane",
    ".=air",
    "s=oak_stairs 2",
    "r=oak_stairs 3",
    "b=bed 0",
    "h=chest 2",
    "t=torch 3",
    "> base cobblestone margin:1",
    "",
    " w p . p w   w p . p w   w g p g w   s s s s s",
    " p . . . p   g . . . g   p t . t p   p p p p p",
    " p b . . p   g . . . g   p . . . p   p p p p p",
    " p . . h p   g . . . g   p . . . p   p p p p p",
    " w p p p w   w g g g w   w p p p w   r r r r r"]

def pen : Text := Text.ofLines
  ["# Fenced chicken pen",
    "f=oak_fence",
    "g=fence_gate 0",
    ".=air",
    "c=$chicken count:3",
    "> base grass",
    "",
    " f f f f f",
    " f . . . f",
    " f . c . f",
    " f . . . f",
    " f f g f f"]

def tower : Text := Text.ofLines
  ["# Stone watchtower with a ladder, a lantern and vines on one face",
    "c=cobblestone",
    ".=air",
    "l=ladder 3",
    "v=vine 1",
    "n=lantern",
    "f=oak_fence",
    "> offset 0 0 1",
    "",
    " . v .   . v .   . . .   . . .   . . .",
    " c c c   c c c   c c c   f f f   . . .",
    " c . c   c l c   c l c   f . f   . n .",
    " c c c   c c c   c c c   f f f   . . ."]

end VoxelTemplate.Library
