import Wiring.CommandLine.Execution

/-!
# The program

The files that an invocation names are read into a disk, the invocation is executed on it, and the
files it changed are written back.
-/

namespace Wiring

def usage : String :=
  "Inject a constructor dependency into PHP controllers\n\n" ++
  "[--root PATH] [--verbose] run [--manifest PATH] [--extend NAME] [--create NAME]\n" ++
  "    [--path-template TEMPLATE] [--type CLASS] [--name NAME] [--import FQCN]\n" ++
  "    [--dry-run] [--json]\n" ++
  "[--root PATH] [--verbose] plan --manifest PATH [--json]"

def UsageFault.message : UsageFault → String
  | .help | .nothingGiven => usage
  | .version => "0.1.0"
  | .missingCommand => "error: a subcommand is required"
  | .unknownCommand => "error: unrecognized subcommand"
  | .unknownArgument => "error: unexpected argument"
  | .badValue => "error: invalid value"
  | .missingArgument => "error: a required argument was not provided"
  | .repeatedArgument => "error: an argument cannot be used multiple times"
  | .unexpectedValue => "error: unexpected value"

def fromEnvironment (name : String) : IO (Option Text) := do
  return (← IO.getEnv name).map String.toList

def environment : IO Environment := do
  return {
    root := ← fromEnvironment "CTORINJECT_ROOT"
    verbose := ← fromEnvironment "CTORINJECT_VERBOSE"
    manifest := ← fromEnvironment "CTORINJECT_MANIFEST" }

/-- The directories on the way of a path, and where it leads. -/
def walk (workingDirectory : Location) (path : Text) : List Location :=
  (pieces '/' path).foldl (fun visited segment =>
    let here := visited.headD []
    let next :=
      if segment = [] ∨ segment = ['.'] then here
      else if segment = ['.', '.'] then here.dropLast
      else here ++ [segment]
    next :: visited) [if isAbsolute path then [] else workingDirectory]

def isWritable (path : String) : IO Bool := do
  try
    let _ ← IO.FS.Handle.mk path .append
    return true
  catch _ => return false

/-- The disk with the file at a path, if it can be read. -/
def loadFile (disk : Disk) (path : Text) : IO Disk := do
  let location := (walk disk.workingDirectory path).headD []
  let above := (walk disk.workingDirectory path).tail
  let name := String.ofList path
  try
    let bytes ← IO.FS.readBinFile name
    let file : File := ⟨bytes.toList, !(← isWritable name)⟩
    return { disk with
      files := if (disk.file? location).isSome then disk.files else disk.files ++ [(location, file)]
      directories := disk.directories ++ above }
  catch
    | .noFileOrDirectory .. => return disk
    | _ => return { disk with directories := disk.directories ++ location :: above }

/-- Writes back a file that an execution changed. -/
def storeFile (before after : Disk) (path : Text) : IO Unit := do
  let location := (walk before.workingDirectory path).headD []
  match after.file? location with
  | some file =>
    if before.file? location ≠ some file then
      IO.FS.writeBinFile (String.ofList path) ⟨file.bytes.toArray⟩
  | none => return

def perform (i : Invocation) : IO UInt32 := do
  let workingDirectory := (pieces '/' (← IO.currentDir).toString.toList).filter (· ≠ [])
  let disk ← i.manifest.toList.foldlM loadFile { workingDirectory }
  let paths := i.targetPaths disk
  let disk ← paths.foldlM loadFile disk
  let execution := i.execute disk
  paths.forM (storeFile disk execution.disk)
  (← IO.getStderr).putStr (String.ofList execution.notes)
  (← IO.getStdout).putStr (String.ofList execution.output)
  match execution.failure with
  | none => return 0
  | some failure =>
    match failure.context with
    | some context => IO.eprintln (String.ofList context)
    | none => pure ()
    IO.eprintln (String.ofList failure.message)
    return 1

end Wiring

def main (arguments : List String) : IO UInt32 := do
  match Wiring.Invocation.ofArguments (← Wiring.environment) (arguments.map String.toList) with
  | .ok invocation => Wiring.perform invocation
  | .error fault =>
    match fault with
    | .help | .version =>
      IO.println fault.message
      return 0
    | _ =>
      IO.eprintln fault.message
      return 2
