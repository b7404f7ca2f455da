import VoxelTemplate.Dict
import VoxelTemplate.Toml.Document
/-! Manifests: a fallback name, and the files of named templates. Other keys say nothing. -/
namespace VoxelTemplate

structure Manifest where
  fallback : Option Text
  files : Dict Text
deriving DecidableEq

namespace Manifest
open Toml

/-- The name under which a date or a time counts as a table of one entry. -/
def momentKey : Text := "$__toml_private_datetime".toList

def text? : Value → Option Text
  | .string text => some text
  | _ => none

def texts? : Value → Option (List (Text × Text))
  | .table _ entries => entries.mapM fun (key, value) => (text? value).map fun text => (key, text)
  | .moment text => some [(momentKey, text)]
  | _ => none

/-- Both keys may be missing; a key that is there has the right kind of value. -/
def ofEntries? (entries : Entries) : Option Manifest := do
  let fallback ← match entries.lookup "fallback".toList with
    | none => some none
    | some value => (text? value).map some
  let files ← match entries.lookup "templates".toList with
    | none => some []
    | some value => texts? value
  return { fallback, files := Dict.ofList files }

def parse? (text : Text) : Option Manifest := (Toml.parse? text).bind ofEntries?

end Manifest
end VoxelTemplate
