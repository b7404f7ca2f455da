import VoxelTemplate.CommandLine
/-! The program: files are read from the system, and the outcome of the command is written. -/
namespace VoxelTemplate

/-- Why the system did not give a file. -/
def ReadFailure.ofError : IO.Error → ReadFailure
  | .noFileOrDirectory .. => .notFound
  | .inappropriateType _ code details | .resourceBusy code details =>
    if code = 20 then .notADirectory
    else if code = 21 then .isADirectory
    else .other details.toList
  | error => .other error.toString.toList

/-- Reads a file as text. -/
def readFile (path : Text) : IO (Except ReadFailure Text) := do
  if '\x00' ∈ path then return .error .nulInPath
  try
    let bytes ← IO.FS.readBinFile (String.ofList path)
    match String.fromUTF8? bytes with
    | some content => return .ok content.toList
    | none => return .error .notText
  catch error => return .error (.ofError error)

end VoxelTemplate

open VoxelTemplate in
def main (args : List String) : IO UInt32 := do
  let outcome ← CommandLine.run readFile (args.map String.toList)
  IO.print (String.ofList outcome.output)
  unless outcome.complaint.isEmpty do
    IO.eprintln (String.ofList (if outcome.complaint.getLast? = some '\n' then
      outcome.complaint.dropLast else outcome.complaint))
  return UInt32.ofNat outcome.code
