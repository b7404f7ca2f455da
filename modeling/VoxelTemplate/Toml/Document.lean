import VoxelTemplate.Toml.Scalar
/-! TOML documents: keys, nested values, headers and lines. -/
namespace VoxelTemplate.Toml

def isBareKey (c : Char) : Bool := c.isAlphanum || c = '-' || c = '_'

def skipSpaces (text : Text) : Text := text.dropWhile isSpace

/-- One segment of a key, in quotes or bare. -/
def readSegment : Text → Read Text
  | '"' :: text => readBasic text
  | '\'' :: text => readLiteral text
  | text =>
    let key := text.takeWhile isBareKey
    if key.isEmpty then none else some (key, text.dropWhile isBareKey)

/-- Segments with points between them and spaces around them, at most `most`. -/
def readPath : (most : Nat) → Text → Read (List Text)
  | 0, _ => none
  | most + 1, text =>
    (readSegment (skipSpaces text)).bind fun (segment, rest) =>
      match skipSpaces rest with
      | '.' :: rest => (readPath most rest).map fun (path, rest) => (segment :: path, rest)
      | rest => some ([segment], rest)

/-- How deep values and keys may nest: less than this. -/
def nesting : Nat := 79

def skipFiller (text : Text) : Text :=
  match _h : skipBlankLines text with
  | '#' :: comment => skipFiller (comment.dropWhile isPrintable)
  | rest => rest
termination_by text.length
decreasing_by
  have hskip := length_skipBlankLines_le text
  have hdrop : (comment.dropWhile isPrintable).length ≤ comment.length :=
    (List.dropWhile_sublist _).length_le
  rw [_h, List.length_cons] at hskip
  omega

/-- The items of an array from after its bracket or a comma; each takes at least one character, so
the length of the text is enough for `most`. -/
def readItems (item : Text → Read Value) : (most : Nat) → Text → Read (List Value)
  | 0, _ => none
  | most + 1, text =>
    match skipFiller text with
    | ']' :: rest => some ([], rest)
    | start => (item start).bind fun (value, rest) =>
      match skipFiller rest with
      | ',' :: rest => (readItems item most rest).map fun (items, rest) => (value :: items, rest)
      | ']' :: rest => some ([value], rest)
      | _ => none

def readPair (item : Text → Read Value) (text : Text) : Read (List Text × Value) :=
  (readPath nesting text).bind fun (path, rest) =>
    match rest with
    | '=' :: rest => (item (skipSpaces rest)).map fun (value, rest) => ((path, value), rest)
    | _ => none

def Entries.set (value : Value) (entries : Entries) : List Text → Option Entries
  | [] => none
  | key :: path => entries.define value key path

/-- The pairs of a table in braces, from after the brace or a comma. -/
def readPairs (item : Text → Read Value) : (most : Nat) → Entries → Text → Read Entries
  | 0, _, _ => none
  | most + 1, entries, text =>
    (readPair item text).bind fun ((path, value), rest) =>
      (entries.set value path).bind fun entries =>
        match skipSpaces rest with
        | ',' :: rest => readPairs item most entries rest
        | '}' :: rest => some (entries, rest)
        | _ => none

/-- A value; arrays and tables in it nest at most `depth` deep. -/
def readValue : (depth : Nat) → Text → Read Value
  | depth + 1, '[' :: text =>
    (readItems (readValue depth) (text.length + 1) text).map fun (items, rest) =>
      (.array items, rest)
  | depth + 1, '{' :: text =>
    match skipSpaces text with
    | '}' :: rest => some (.table .braces [], rest)
    | start => (readPairs (readValue depth) (start.length + 1) [] start).map
        fun (entries, rest) => (.table .braces entries, rest)
  | _, text => readScalar text

/-- The text from the next line on, if only spaces and a comment remain on this one. -/
def endLine? (text : Text) : Option Text :=
  let rest := match skipSpaces text with
    | '#' :: comment => comment.dropWhile isPrintable
    | rest => rest
  match rest with
  | [] => some []
  | rest => lineBreak? rest

inductive Statement where
  | blank
  | pair (path : List Text) (value : Value)
  | header (path : List Text)
  | doubleHeader (path : List Text)

/-- One line, or the lines of one value, from the first character that is no space. -/
def readStatement : Text → Read Statement
  | '[' :: '[' :: text => (readPath nesting text).bind fun (path, rest) =>
    match rest with
    | ']' :: ']' :: rest => (endLine? rest).map fun rest => (.doubleHeader path, rest)
    | _ => none
  | '[' :: text => (readPath nesting text).bind fun (path, rest) =>
    match rest with
    | ']' :: rest => (endLine? rest).map fun rest => (.header path, rest)
    | _ => none
  | text => match endLine? text with
    | some rest => some (.blank, rest)
    | none => (readPair (readValue nesting) text).bind fun ((path, value), rest) =>
      (endLine? rest).map fun rest => (.pair path value, rest)

/-- A document in the making: its entries, and the path of the table that lines add to. -/
structure Draft where
  root : Entries := []
  here : List Text := []

namespace Draft

def add (draft : Draft) : Statement → Option Draft
  | .blank => some draft
  | .pair path value =>
    (Entries.within (fun entries => entries.set value path) draft.here draft.root).map fun root =>
      { draft with root }
  | .header path =>
    (Entries.within (Entries.openTable (path.getLastD [])) path.dropLast draft.root).map fun root =>
      { root, here := path }
  | .doubleHeader path =>
    (Entries.within (Entries.openRow (path.getLastD [])) path.dropLast draft.root).map fun root =>
      { root, here := path }

/-- All statements of a text; each takes at least one character, so the length of the text is
enough for `most`. -/
def addAll (draft : Draft) : (most : Nat) → Text → Option Draft
  | 0, _ => none
  | most + 1, text =>
    match skipSpaces text with
    | [] => some draft
    | start => (readStatement start).bind fun (statement, rest) =>
      (draft.add statement).bind fun draft => addAll draft most rest

end Draft

/-- The entries of a document, if it is one. A byte order mark at its start is no part of it. -/
def parse? (text : Text) : Option Entries :=
  let body := match text with
    | '\ufeff' :: rest => rest
    | _ => text
  (Draft.addAll {} (body.length + 1) body).map Draft.root

end VoxelTemplate.Toml
