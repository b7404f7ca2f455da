import VoxelTemplate.Template.Fault
import VoxelTemplate.Text.Blank
import VoxelTemplate.Text.Width
/-! Drawings of faults: the lines of the text that a fault spans, with marks under or beside them.
Spans are read as character positions. -/
namespace VoxelTemplate.Report

/-- Characters that end a row by themselves. -/
def isBreak (c : Char) : Bool :=
  [0xA, 0xB, 0xC, 0xD, 0x85, 0x2028, 0x2029].contains c.toNat

/-- The rows of a text, each with the break at its end; no row is empty. -/
def rows : Text → List Text
  | [] => []
  | '\r' :: '\n' :: text => ['\r', '\n'] :: rows text
  | c :: text => if isBreak c then [c] :: rows text else Text.consFirst c (rows text)

/-- A row of the text: its number from one, the position of its first character, its characters. -/
structure Row where
  number : Nat
  start : Nat
  text : Text
deriving DecidableEq, Repr

def placeRows (number start : Nat) : List Text → List Row
  | [] => []
  | text :: rest => ⟨number, start, text⟩ :: placeRows (number + 1) (start + text.length) rest

/-- The row of a position: the last that starts at or before it. The end of the text belongs to the
last row. -/
def rowAt? (source : Text) (position : Nat) : Option Row :=
  if position ≤ source.length then
    ((placeRows 1 0 (rows source)).filter fun row => row.start ≤ position).getLast?
  else none

/-- Columns that the character at place `column` of a row takes. -/
def widthAt (column : Nat) (c : Char) : Nat :=
  if c = '\t' then 4 - column % 4
  else if Text.isBlank c then 1
  else Text.columns c

/-- What is drawn of a character: blanks come out as spaces. -/
def drawAt (column : Nat) (c : Char) : Text :=
  if Text.isBlank c then List.replicate (widthAt column c) ' ' else [c]

def drawn (row : Row) : Text :=
  ((Text.trimEnd row.text).zipIdx.map fun (c, column) => drawAt column c).flatten

/-- Columns taken at each of the first `count` places; places past the text take one. -/
def widths (row : Row) (count : Nat) : List Nat :=
  let text := Text.trimEnd row.text
  (List.range count).map fun column => match text[column]? with
    | some c => widthAt column c
    | none => 1

/-- `lead` once and `rest` for the further columns of one place. -/
def stroke (width : Nat) (lead rest : Char) : Text :=
  if width = 0 then [] else lead :: List.replicate (width - 1) rest

def numbered (digits number : Nat) : Text :=
  let text := Numeral.ofNat number
  ' ' :: (List.replicate (digits - text.length) ' ' ++ text ++ " │ ".toList)

def label (fault : Fault) : Text :=
  fault.message ++ (match fault.expected with
    | [] => []
    | items => "\nExpected: ".toList ++ Text.join ", ".toList items)

def drawWithin (pad : Text) (digits : Nat) (row : Row) (fault : Fault) : List Text :=
  let start := fault.span.start
  let stop := fault.span.stop
  if row.start + row.text.length < stop then [pad ++ "│ ".toList]
  else
    let middle := (start + stop) / 2 - row.start
    let places := (widths row (stop - row.start + 2)).zipIdx
    let inside (place : Nat) : Bool := start ≤ row.start + place && row.start + place < stop
    let marks := places.flatMap fun (width, place) =>
      if place = middle then
        if inside place then stroke width '┬' '─' else stroke width '│' ' '
      else if inside place then stroke width '─' '─' else stroke width ' ' ' '
    let arrow := places.flatMap fun (width, place) =>
      if place < middle then stroke width ' ' ' '
      else if place = middle then stroke width '╰' '─'
      else stroke width '─' '─'
    [numbered digits row.number ++ drawn row,
      pad ++ "│ ".toList ++ marks,
      pad ++ "│ ".toList ++ arrow ++ ' ' :: label fault]

/-- The body for a span over several rows; `size` is the length of the text. -/
def drawAcross (pad : Text) (digits size : Nat) (first last : Row) (fault : Fault) : List Text :=
  let final := fault.span.stop - 1
  let beyond := (widths last (last.text.length + 2)).foldr (· + ·) 0
  [numbered digits first.number ++ "╭─▶ ".toList ++ drawn first] ++
    (if first.number + 1 < last.number || final = size then [pad ++ "┆ ┆   ".toList] else []) ++
    (if final < size then
      [numbered digits last.number ++ "├─▶ ".toList ++ drawn last,
        pad ++ "│ │   ".toList ++ List.replicate beyond ' ',
        pad ++ "│ ╰───".toList ++ List.replicate beyond '─' ++ ' ' :: label fault]
    else [])

def frame (source filename : Text) (fault : Fault) : List Text :=
  let start := fault.span.start
  let stop := fault.span.stop
  let first? := rowAt? source start
  let last? := if stop ≤ start then first? else rowAt? source (stop - 1)
  match first?, last? with
  | some first, some last =>
    let digits := (Numeral.ofNat last.number).length
    let pad := List.replicate (digits + 2) ' '
    [pad ++ "╭─[".toList ++ filename ++ ':' :: Numeral.ofNat first.number ++ ':' ::
        Numeral.ofNat (start - first.start + 1) ++ [']'],
      pad ++ ['│']] ++
      (if first.number = last.number then drawWithin pad digits first fault
        else drawAcross pad digits source.length first last fault) ++
      [List.replicate (digits + 2) '─' ++ ['╯']]
  | _, _ => []

/-- The report of a fault, a line break after each of its lines. A span that ends before it starts
cannot be drawn. -/
def draw? (source filename : Text) (fault : Fault) : Option Text :=
  if fault.span.stop < fault.span.start then none
  else
    let lines := ("Error: ".toList ++ fault.message) :: frame source filename fault
    some (lines.flatMap fun line => line ++ ['\n'])

end VoxelTemplate.Report
