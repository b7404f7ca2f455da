import VoxelTemplate.CommandLine.Request
import VoxelTemplate.Report
import VoxelTemplate.Builder
/-! The command: it lists the templates of a library, or builds one and writes the commands. -/
namespace VoxelTemplate.CommandLine

/-- What a run of the command leaves. -/
structure Outcome where
  /-- 0 for success, 1 for input that cannot be used, 2 for a wrong command line, 101 for a fault
  that cannot be drawn. -/
  code : Nat
  output : Text
  complaint : Text
deriving DecidableEq, Repr

namespace Outcome

def success (output : Text) : Outcome := ⟨0, output, []⟩

def failure (complaint : Text) : Outcome := ⟨1, [], complaint⟩

def usage (error : UsageError) : Outcome := ⟨2, [], error.message ++ ['\n']⟩

def undrawable : Outcome := ⟨101, [], "a fault that ends before it starts cannot be drawn\n".toList⟩

end Outcome

def help : Text := Text.ofLines
  ["Build layered text templates as block placement commands",
    "",
    "Usage: block-templater [OPTIONS] [NAME]",
    "",
    "Arguments:",
    "  [NAME]  Template name (unknown names fall back to the library default)",
    "",
    "Options:",
    "  -f, --file <FILE>                    Build a template file instead of a named template",
    "  -a, --at <X> <Y> <Z>                 Anchor position [default: 0 64 0]",
    "  -d, --facing <FACING>                Facing: north, south, east or west [default: north]",
    "  -r, --sign-rotation <SIGN_ROTATION>  Derive the facing from a sign rotation value (0-15)",
    "  -l, --library <LIBRARY>              Template library manifest (TOML format)",
    "      --list                           List available template names",
    "      --no-slash                       Print commands without a leading '/'",
    "  -v, --verbose...                     Increase log output (-v info, -vv debug)",
    "  -h, --help                           Print help"]

/-- The anchor of a request; without one, a little above the ground at the centre. -/
def anchorOf (request : Request) : Position :=
  request.anchor.getD ⟨.zero, { val := 64 }, .zero⟩

def facingOf (request : Request) : Facing :=
  match request.rotation with
  | some rotation => Facing.ofSign rotation
  | none => request.facing.getD .north

def scriptOf (request : Request) : Script := { slash := !request.noSlash }

/-- The names of a library, one on each line, its fallback marked. -/
def listing (library : Library) : Text :=
  library.names.flatMap fun name =>
    name ++ (if name = library.fallback then " (default)".toList else []) ++ ['\n']

/-- The commands of a script, with a line feed at the end. -/
def written (script : Script) : Text := script.toText ++ ['\n']

/-- The line about a library that could not be loaded; after the words on a manifest the line
stays open for the particulars. -/
def libraryComplaint (path : Text) (error : Library.Error) : Text :=
  "Error loading library '".toList ++ path ++ "': ".toList ++ error.message ++
    (if error = .badManifest then [] else ['\n'])

/-- Builds the template in a text that was read from a file. -/
def buildSource (request : Request) (filename source : Text) : Outcome :=
  match Template.parse source with
  | .ok template =>
    .success (written (Plan.build template (anchorOf request) (facingOf request) .default
      (scriptOf request)).2)
  | .error faults => match faults.mapM (Report.draw? source filename) with
    | some reports => .failure (reports.flatMap fun report => report ++ ['\n'])
    | none => .undrawable

/-- Builds a template of a library by its name, or the fallback. -/
def buildNamed (request : Request) (library : Library) : Outcome :=
  let builder : Builder := { library }
  match builder.build (request.name.getD library.fallback) (anchorOf request)
      (facingOf request) (scriptOf request) with
  | .ok (_, script) => .success (written script)
  | .error error => .failure ("Error: ".toList ++ error.message ++ ['\n'])

variable {m : Type → Type} [Monad m]

/-- Carries out a request. The library comes first, also where nothing of it is used. -/
def carryOut (read : Text → m (Except ReadFailure Text)) (request : Request) : m Outcome := do
  let loaded ← match request.library with
    | none => pure (.ok .standard)
    | some path => (Except.mapError (libraryComplaint path)) <$> Library.load read path
  match loaded with
  | .error complaint => return .failure complaint
  | .ok library =>
    if request.list then return .success (listing library)
    else match request.file with
      | none => return buildNamed request library
      | some path => match ← read path with
        | .ok source => return buildSource request path source
        | .error reason => return .failure ("Error reading file '".toList ++ path ++
            "': ".toList ++ reason.message ++ ['\n'])

/-- Runs the command with the arguments after its name. -/
def run (read : Text → m (Except ReadFailure Text)) (args : List Text) : m Outcome :=
  match Request.read args with
  | .error .help => return .success help
  | .error (.usage error) => return .usage error
  | .ok request => carryOut read request

end VoxelTemplate.CommandLine
