import Wiring.Disk
import Wiring.Log
import Wiring.Manifest.Decoding
import Wiring.Manifest.Targets
import Wiring.Manifest.Validity
import Wiring.Report
import Wiring.Text.Visible

/-!
# Runs

Reading, rewriting and writing back the targets of a manifest, one after the other. The first
target that cannot be read or written ends the run; what was written before stays.
-/

namespace Wiring

/-- Why a command ends early. -/
inductive Failure where
  | unreadable (path : Text) (fault : FileFault)
  | undecodable (path : Text) (fault : Utf8Fault)
  /-- The manifest is no text. -/
  | notText (path : Text)
  | unwritable (path : Text) (fault : FileFault)
  | badManifest (path : Text) (fault : ParseFault)
  | invalid (fault : ManifestFault)

/-- What became of a target: the log, and the report with the disk after it. -/
structure Applied where
  log : List LogEntry
  result : Except Failure (Report × Disk)

def importWarning : Text := "import not added: no namespace or use statements".toList

/-- The report on a target whose source is rewritten, and the rest of the log. -/
def handleRewritten (d : Dependency) (dryRun : Bool) (disk : Disk) (t : Target)
    (content updated : Text) : Applied :=
  let imported := d.isImported updated
  let log := if imported then [] else [.notImported t.path]
  let report : Report :=
    ⟨t.name, t.path, t.mode, .injected, if imported then none else some importWarning⟩
  if dryRun then ⟨log ++ [.leftUntouched t.path], .ok (report, disk)⟩
  else if updated = content then ⟨log, .ok (report, disk)⟩
  else
    match disk.write t.path (utf8 updated) with
    | .error fault => ⟨log, .error (.unwritable t.path fault)⟩
    | .ok disk => ⟨log ++ [.wrote (byteLength updated) t.path], .ok (report, disk)⟩

/-- Reads, rewrites and, unless the run is dry, writes back a target. -/
def handleTarget (d : Dependency) (dryRun : Bool) (disk : Disk) (t : Target) : Applied :=
  match disk.read t.path with
  | .error fault => ⟨[.reading t.path], .error (.unreadable t.path fault)⟩
  | .ok bytes =>
    match decodeUtf8 bytes with
    | .error fault => ⟨[.reading t.path], .error (.undecodable t.path fault)⟩
    | .ok content =>
      let outcome := d.inject t.mode content
      let log : List LogEntry :=
        [.reading t.path, .processed t.name t.mode outcome.status]
      match outcome with
      | .skipped _ => ⟨log, .ok (⟨t.name, t.path, t.mode, outcome.status, none⟩, disk)⟩
      | .injected updated =>
        let applied := handleRewritten d dryRun disk t content updated
        { applied with log := log ++ applied.log }

/-- A run so far. -/
structure Progress where
  disk : Disk
  summary : Summary
  log : List LogEntry := []
  output : Text := []

def Progress.print (p : Progress) (line : Text) : Progress :=
  { p with output := p.output ++ printed line }

/-- The lines that show a report. -/
def Report.lines (r : Report) : List Text :=
  statusLine r.name r.status ::
    match r.warning with
    | some warning => ["    ! ".toList ++ warning]
    | none => []

/-- One target further. -/
def Progress.apply (p : Progress) (d : Dependency) (t : Target) : Progress × Option Failure :=
  let applied := handleTarget d p.summary.dryRun p.disk t
  let p := { p with log := p.log ++ applied.log }
  match applied.result with
  | .error failure => (p, some failure)
  | .ok (report, disk) =>
    let p := report.lines.foldl Progress.print p
    ({ p with disk, summary := p.summary.add report }, none)

def Progress.applyAll (p : Progress) (d : Dependency) : List Target → Progress × Option Failure
  | [] => (p, none)
  | t :: ts =>
    match p.apply d t with
    | (p, none) => p.applyAll d ts
    | (p, some failure) => (p, some failure)

/-- The targets of a mode, between a line that names it and an empty one. -/
def Progress.applySection (p : Progress) (d : Dependency) (targets : List Target) (mode : Mode) :
    Progress × Option Failure :=
  match (p.print mode.header).applyAll d (targets.filter (·.mode = mode)) with
  | (p, none) => (p.print [], none)
  | (p, some failure) => (p, some failure)

/-- All targets, those to extend before those that get a constructor. -/
def runTargets (d : Dependency) (dryRun : Bool) (disk : Disk) (targets : List Target) :
    Progress × Option Failure :=
  let start : Progress := { disk, summary := { dryRun } }
  match start.applySection d targets .extend with
  | (p, some failure) => (p, some failure)
  | (p, none) =>
    match p.applySection d targets .create with
    | (p, some failure) => (p, some failure)
    | (p, none) =>
      let p := if dryRun then p.print "Dry run, no file was written.".toList else p
      (p.print "Done!".toList, none)

end Wiring
