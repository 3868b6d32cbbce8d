import Wiring.CommandLine.Arguments
import Wiring.CommandLine.Output
import Wiring.Run

/-!
# Execution

What a command does to a disk, and all that it prints and notes down. What was printed before a
failure stays printed.
-/

namespace Wiring

structure Execution where
  disk : Disk
  output : Text := []
  /-- What is printed beside the output. -/
  notes : Text := []
  log : List LogEntry := []
  failure : Option Failure := none

def ParseFault.message : ParseFault → Text
  | .malformed => "malformed document".toList
  | .mismatch fault => fault.message

def Failure.message : Failure → Text
  | .unreadable path fault => "Failed to read ".toList ++ path ++ ": ".toList ++ fault.message
  | .undecodable path fault => path ++ " is not valid UTF-8: ".toList ++ fault.message
  | .notText path =>
    "Failed to read ".toList ++ path ++ ": stream did not contain valid UTF-8".toList
  | .unwritable path fault => "Failed to write ".toList ++ path ++ ": ".toList ++ fault.message
  | .badManifest _ fault => fault.message
  | .invalid fault => fault.message

/-- What a failure happened in, where its message does not say so. -/
def Failure.context : Failure → Option Text
  | .badManifest path _ => some ("Invalid manifest ".toList ++ path)
  | _ => none

/-- The manifest at a path, or one without targets. -/
def loadManifest (disk : Disk) : Option Text → Except Failure (LogEntry × Manifest)
  | none => .ok (.noManifest, {})
  | some path => do
    let bytes ← (disk.read path).mapError (.unreadable path)
    let content ← (decodeUtf8 bytes).mapError fun _ => .notText path
    let m ← (Manifest.parse content).mapError (.badManifest path)
    return (.loaded path m.extend.length m.create.length m.fixes.length, m)

/-- The manifest with what the options say. -/
def RunOptions.override (o : RunOptions) (m : Manifest) : Manifest :=
  let m := m.addNames o.extend o.create
  { m with
    pathTemplate := o.pathTemplate.getD m.pathTemplate
    dependency := {
      type := o.type.getD m.dependency.type
      name := o.name.getD m.dependency.name
      imported := o.imported.or m.dependency.imported } }

/-- A manifest that is loaded, overridden and valid. -/
def prepareManifest (disk : Disk) (path : Option Text) (override : Manifest → Manifest) :
    List LogEntry × Except Failure Manifest :=
  match loadManifest disk path with
  | .error failure => ([], .error failure)
  | .ok (entry, m) =>
    match (override m).fault? with
    | some fault => ([entry], .error (.invalid fault))
    | none => ([entry], .ok (override m))

def RunOptions.execute (o : RunOptions) (root : Text) (verbose : Bool) (disk : Disk) : Execution :=
  match prepareManifest disk o.manifest o.override with
  | (log, .error failure) => { disk, log, failure }
  | (log, .ok m) =>
    let notes :=
      if verbose then
        printed ("Root: ".toList ++ root) ++
          printed ("Path template: ".toList ++ m.pathTemplate) ++
          printed ("Dependency: ".toList ++ m.dependency.parameter)
      else []
    match runTargets m.dependency o.dryRun disk (m.targets root) with
    | (p, failure) =>
      let output :=
        if ¬ o.json then p.output
        else if failure.isSome then []
        else printed p.summary.json.text
      { disk := p.disk, output, notes, log := log ++ p.log, failure }

def PlanOptions.execute (o : PlanOptions) (verbose : Bool) (disk : Disk) : Execution :=
  match prepareManifest disk (some o.manifest) id with
  | (log, .error failure) => { disk, log, failure }
  | (log, .ok m) =>
    let notes :=
      if verbose then
        printed ("Manifest: ".toList ++ o.manifest) ++
          printed ("Fixes: ".toList ++ Nat.toDigits 10 m.fixes.length)
      else []
    let output := if o.json then printed m.plan.json.text else m.plan.text m.dependency.type
    { disk, output, notes, log }

/-- The manifest that an invocation names. -/
def Invocation.manifest (i : Invocation) : Option Text :=
  match i.command with
  | .run options => options.manifest
  | .plan options => some options.manifest

/-- The files that an invocation rewrites, given a disk with its manifest. -/
def Invocation.targetPaths (i : Invocation) (disk : Disk) : List Text :=
  match i.command with
  | .run options =>
    match (prepareManifest disk options.manifest options.override).2 with
    | .ok m => (m.targets i.root).map (·.path)
    | .error _ => []
  | .plan _ => []

def Invocation.execute (i : Invocation) (disk : Disk) : Execution :=
  match i.command with
  | .run options => options.execute i.root i.verbose disk
  | .plan options => options.execute i.verbose disk

end Wiring
