import VoxelTemplate.Template.Directive
import VoxelTemplate.Template.Line
/-! Reading a template. Each class of lines gives its part of the template whatever stands between
its lines; faults of directives come in the order of the lines, and faults of the shape after them. -/
namespace VoxelTemplate.Template

/-- A run of cells parted by single spaces for every row, rows parted by three spaces. -/
def readLayer (row : Text) : Layer := (Text.splitTripleSpace row).map (Text.split ' ')

def definitions (lines : List (Text × Span)) : List (Text × Text) :=
  lines.filterMap fun (line, _) => match Line.read line with
    | .definition key spec => some (key, spec)
    | _ => none

/-- The layers among the lines, each with the bytes of its line. -/
def placedLayers (lines : List (Text × Span)) : List (Layer × Span) :=
  lines.filterMap fun (line, span) => match Line.read line with
    | .layer row => some (readLayer row, span)
    | _ => none

def offsets (lines : List (Text × Span)) : List Offset :=
  lines.filterMap fun (line, _) => match Line.read line with
    | .offset body => (Offset.read body).toOption
    | _ => none

def bases (lines : List (Text × Span)) : List Base :=
  lines.filterMap fun (line, _) => match Line.read line with
    | .base body => (Base.read body).toOption
    | _ => none

/-- What is wrong with a line by itself: a directive whose body does not read. -/
def lineFault? (line : Text) (span : Span) : Option Fault :=
  match Line.read line with
  | .offset body => match Offset.read body with
    | .error fault => some (fault.shift (span.start + Line.offsetMark.length))
    | .ok _ => none
  | .base body => match Base.read body with
    | .error fault => some (fault.shift (span.start + Line.baseMark.length))
    | .ok _ => none
  | _ => none

/-- What is wrong with the layer at `index` if all are to have `height` rows of `width` cells. -/
def layerFault? (height width index : Nat) (layer : Layer) (span : Span) : Option Fault :=
  if layer.length ≠ height then some ⟨span, .rowCount (index + 1) layer.length height⟩
  else (layer.zipIdx.find? fun (row, _) => row.length ≠ width).map fun (row, j) =>
    ⟨span, .cellCount (j + 1) (index + 1) row.length width⟩

/-- The first layer sets the rows, and its first row the cells, for all. `size` is the size of the
whole text. -/
def shapeFaults (size : Nat) : List (Layer × Span) → List Fault
  | [] => [⟨⟨0, size⟩, .noLayers⟩]
  | (first, span) :: rest =>
    ((first, span) :: rest).zipIdx.filterMap fun ((layer, span), index) =>
      layerFault? first.length (first.headD []).length index layer span

/-- Every fault of a text: one for each bad directive, then those of the shape. -/
def faults (source : Text) : List Fault :=
  let lines := Line.ofSource source
  lines.filterMap (fun (line, span) => lineFault? line span) ++
    shapeFaults (Text.byteSize source) (placedLayers lines)

/-- The template that the lines describe. Of two definitions of a key, two offsets or two bases
the later one holds. -/
def ofLines (lines : List (Text × Span)) : Template where
  specs := Dict.ofList (definitions lines)
  layers := (placedLayers lines).map Prod.fst
  offset := (offsets lines).getLast?.getD default
  base := (bases lines).getLast?

/-- The template in a text, or all that is wrong with the text. -/
def parse (source : Text) : Except (List Fault) Template :=
  match faults source with
  | [] => .ok (ofLines (Line.ofSource source))
  | found => .error found

end VoxelTemplate.Template
