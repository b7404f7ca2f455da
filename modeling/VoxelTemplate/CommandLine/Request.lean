import VoxelTemplate.Geometry
/-! Command lines: the options, their values, and the rules for using them together. -/
namespace VoxelTemplate.CommandLine

inductive Opt where
  | file | anchor | facing | signRotation | library | list | noSlash | verbose | help
deriving DecidableEq, Repr

namespace Opt

def all : List Opt :=
  [file, anchor, facing, signRotation, library, list, noSlash, verbose, help]

/-- The word that stands for an option after two dashes. -/
def word : Opt → Text
  | file => "file".toList
  | anchor => "at".toList
  | facing => "facing".toList
  | signRotation => "sign-rotation".toList
  | library => "library".toList
  | list => "list".toList
  | noSlash => "no-slash".toList
  | verbose => "verbose".toList
  | help => "help".toList

/-- The letter that stands for an option after one dash. -/
def letter? : Opt → Option Char
  | file => some 'f'
  | anchor => some 'a'
  | facing => some 'd'
  | signRotation => some 'r'
  | library => some 'l'
  | verbose => some 'v'
  | help => some 'h'
  | list | noSlash => none

def ofWord? (word : Text) : Option Opt := all.find? fun option => option.word = word

def ofLetter? (letter : Char) : Option Opt := all.find? fun option => option.letter? = some letter

theorem ofWord?_word (option : Opt) : ofWord? option.word = some option := by
  cases option <;> decide

def takesValue : Opt → Bool
  | file | anchor | facing | signRotation | library => true
  | list | noSlash | verbose | help => false

end Opt

inductive UsageError where
  | unknownOption (text : Text)
  | repeated (option : Opt)
  | missingValue (option : Opt)
  | surplusValue (option : Opt)
  | badValue (option : Opt) (value : Text)
  | surplusArgument (text : Text)
  | conflict (first second : Opt)
  | fileAndName
deriving DecidableEq, Repr

namespace UsageError

def written (option : Opt) : Text := '-' :: '-' :: option.word

def message : UsageError → Text
  | unknownOption text => "unknown option ".toList ++ text
  | repeated option => written option ++ " is given more than once".toList
  | missingValue option => written option ++ " lacks a value".toList
  | surplusValue option => written option ++ " takes no value".toList
  | badValue option value => "bad value '".toList ++ value ++ "' for ".toList ++ written option
  | surplusArgument text => "unexpected argument '".toList ++ text ++ "'".toList
  | conflict first second => written first ++ " excludes ".toList ++ written second
  | fileAndName => "--file excludes a name".toList

end UsageError

/-- What a command line asks for; what is not given is `none`. -/
structure Request where
  name : Option Text := none
  file : Option Text := none
  anchor : Option Position := none
  facing : Option Facing := none
  rotation : Option Nat := none
  library : Option Text := none
  list : Bool := false
  noSlash : Bool := false
  verbose : Nat := 0

/-- The end of reading short of a request. -/
inductive Stop where
  | help
  | usage (error : UsageError)
deriving DecidableEq, Repr

namespace Request

def fail {α : Type} (error : UsageError) : Except Stop α := .error (.usage error)

/-- A field that may be set once. -/
def once {α : Type} (option : Opt) (old : Option α) (new : Except Stop α) :
    Except Stop (Option α) :=
  match old with
  | some _ => fail (.repeated option)
  | none => new.map some

/-- A flag that may be given once. -/
def raise (option : Opt) (raised : Bool) : Except Stop Bool :=
  if raised then fail (.repeated option) else .ok true

def readPath (option : Opt) (value : Text) : Except Stop Text :=
  if value.isEmpty then fail (.badValue option value) else .ok value

def readFacing (value : Text) : Except Stop Facing :=
  match Facing.read? value with
  | some facing => .ok facing
  | none => fail (.badValue .facing value)

/-- A whole number of 8 bits. -/
def readRotation (value : Text) : Except Stop Nat :=
  match Numeral.signed? value with
  | some n => if 0 ≤ n ∧ n ≤ 255 then .ok n.toNat else fail (.badValue .signRotation value)
  | none => fail (.badValue .signRotation value)

def readCoord (value : Text) : Except Stop Coord :=
  match Coord.read? value with
  | some coord => .ok coord
  | none => fail (.badValue .anchor value)

/-- Sets an option that has one value. -/
def setValue (request : Request) (option : Opt) (value : Text) : Except Stop Request :=
  match option with
  | .file => (once option request.file (readPath option value)).map
      fun file => { request with file }
  | .library => (once option request.library (readPath option value)).map
      fun library => { request with library }
  | .facing => (once option request.facing (readFacing value)).map
      fun facing => { request with facing }
  | .signRotation => (once option request.rotation (readRotation value)).map
      fun rotation => { request with rotation }
  | .anchor => fail (.missingValue option)
  | .list | .noSlash | .verbose | .help => fail (.surplusValue option)

/-- Sets an option that has no value. -/
def setFlag (request : Request) (option : Opt) : Except Stop Request :=
  match option with
  | .list => (raise option request.list).map fun list => { request with list }
  | .noSlash => (raise option request.noSlash).map fun noSlash => { request with noSlash }
  | .verbose => .ok { request with verbose := request.verbose + 1 }
  | .help => .error .help
  | .file | .anchor | .facing | .signRotation | .library => fail (.missingValue option)

def setName (request : Request) (name : Text) : Except Stop Request :=
  match request.name with
  | some _ => fail (.surplusArgument name)
  | none => .ok { request with name := some name }

/-- Whether an argument stands for itself; the others are options. -/
def isPlain : Text → Bool
  | '-' :: _ :: _ => false
  | _ => true

/-- Sets the option whose values are the next arguments, and gives the arguments after them. Of
several anchors the first holds. -/
def takeValues (request : Request) (option : Opt) (args : List Text) :
    Except Stop (Request × List Text) :=
  match option, args with
  | .anchor, x :: y :: z :: rest => do
    let anchor : Position := ⟨← readCoord x, ← readCoord y, ← readCoord z⟩
    return ({ request with anchor := request.anchor.or (some anchor) }, rest)
  | .anchor, _ => fail (.missingValue option)
  | _, value :: rest =>
    if isPlain value then (request.setValue option value).map fun request => (request, rest)
    else fail (.missingValue option)
  | _, [] => fail (.missingValue option)

/-- Letters after one dash: flags, then at most one option with a value, which may follow at once,
with or without an equals sign. -/
def readLetters (request : Request) (args : List Text) : (letters : Text) →
    Except Stop (Request × List Text)
  | [] => .ok (request, args)
  | letter :: letters =>
    match Opt.ofLetter? letter with
    | none => fail (.unknownOption ['-', letter])
    | some option =>
      if option.takesValue then match letters with
        | [] => request.takeValues option args
        | '=' :: value => (request.setValue option value).map fun request => (request, args)
        | value => (request.setValue option value).map fun request => (request, args)
      else match request.setFlag option with
        | .ok request => readLetters request args letters
        | .error stop => .error stop

/-- A word after two dashes, with its value after an equals sign or in the next arguments. -/
def readWord (request : Request) (args : List Text) (word : Text) :
    Except Stop (Request × List Text) :=
  let (name, value?) := match Text.splitFirst? '=' word with
    | some (name, value) => (name, some value)
    | none => (word, none)
  match Opt.ofWord? name, value? with
  | none, _ => fail (.unknownOption ('-' :: '-' :: word))
  | some option, some value => (request.setValue option value).map fun request => (request, args)
  | some option, none =>
    if option.takesValue then request.takeValues option args
    else (request.setFlag option).map fun request => (request, args)

/-- Reads arguments in order; after `--` they are all names. Every step takes an argument, so the
number of arguments is enough for `most`. -/
def readArgs (request : Request) : (most : Nat) → List Text → Except Stop Request
  | _, [] => .ok request
  | 0, arg :: _ => fail (.surplusArgument arg)
  | most + 1, arg :: args =>
    match arg with
    | ['-', '-'] => args.foldlM setName request
    | '-' :: '-' :: word => do
      let (request, args) ← request.readWord args word
      request.readArgs most args
    | '-' :: letter :: letters => do
      let (request, args) ← request.readLetters args (letter :: letters)
      request.readArgs most args
    | _ => do
      let request ← request.setName arg
      request.readArgs most args

/-- Options that exclude each other. -/
def check (request : Request) : Except Stop Request :=
  if request.file.isSome && request.name.isSome then fail .fileAndName
  else if request.rotation.isSome && request.facing.isSome then
    fail (.conflict .signRotation .facing)
  else .ok request

/-- The request in the arguments of a command. -/
def read (args : List Text) : Except Stop Request := do
  let request ← readArgs {} args.length args
  request.check

end Request
end VoxelTemplate.CommandLine
