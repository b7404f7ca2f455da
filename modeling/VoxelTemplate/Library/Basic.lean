import VoxelTemplate.FileTree
import VoxelTemplate.Library.Standard
import VoxelTemplate.Manifest
/-! Libraries: template texts by name, and the name used when a lookup misses. A manifest extends a
library by files, all of them or none. -/
namespace VoxelTemplate

structure Library where
  sources : Dict Text
  /-- Stands in for names that the library does not know. -/
  fallback : Text
deriving DecidableEq

inductive Library.Error where
  | unreadable (path : Text) (reason : ReadFailure)
  | badManifest
  | notFound (requested fallback : Text)
deriving DecidableEq, Repr

/-- The error in one line; what is wrong with a manifest is not said. -/
def Library.Error.message : Library.Error → Text
  | unreadable path reason => "Failed to read ".toList ++ path ++ ": ".toList ++ reason.message
  | badManifest => "Failed to parse library manifest:".toList
  | notFound requested fallback =>
    "template '".toList ++ requested ++ "' not found and fallback '".toList ++ fallback ++
      "' is missing".toList

namespace Library

/-- No templates; lookups miss until some are added. -/
def empty : Library := ⟨.empty, "house".toList⟩

def insert (library : Library) (name source : Text) : Library :=
  { library with sources := library.sources.insert name source }

def standard : Library :=
  ((empty.insert "house".toList house).insert "pen".toList pen).insert "tower".toList tower

instance : Inhabited Library := ⟨standard⟩

def setFallback (library : Library) (name : Text) : Library := { library with fallback := name }

def names (library : Library) : List Text := library.sources.keys

def contains (library : Library) (name : Text) : Bool := library.sources.has name

/-- The text under a name, or under the fallback, and the name it was found under. -/
def find (library : Library) (name : Text) : Except Library.Error (Text × Text) :=
  match library.sources.find? name with
  | some source => .ok (name, source)
  | none => match library.sources.find? library.fallback with
    | some source => .ok (library.fallback, source)
    | none => .error (.notFound name library.fallback)

variable {m : Type → Type} [Monad m]

/-- Adds named files, read one after the other; the first that cannot be read ends it. -/
def addFiles (read : Text → m (Except ReadFailure Text)) (base : Text) (library : Library) :
    List (Text × Text) → m (Except Library.Error Library)
  | [] => return .ok library
  | (name, file) :: files => do
    match ← read (Path.join base file) with
    | .ok source => addFiles read base (library.insert name source) files
    | .error reason => return .error (.unreadable (Path.join base file) reason)

/-- Adds the files of a manifest, in the order of their names, and takes its fallback. -/
def extend (read : Text → m (Except ReadFailure Text)) (library : Library) (manifest base : Text) :
    m (Except Library.Error Library) :=
  match Manifest.parse? manifest with
  | none => return .error .badManifest
  | some found =>
    addFiles read base { library with fallback := found.fallback.getD library.fallback }
      found.files.entries

/-- The built-in templates and those of a manifest file, whose paths start at its directory. -/
def load (read : Text → m (Except ReadFailure Text)) (path : Text) :
    m (Except Library.Error Library) := do
  match ← read path with
  | .ok manifest => extend read standard manifest (Path.parent path)
  | .error reason => return .error (.unreadable path reason)

end Library
end VoxelTemplate
