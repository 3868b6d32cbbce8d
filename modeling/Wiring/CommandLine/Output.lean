import Wiring.FixPlan
import Wiring.Layout.Columns
import Wiring.Layout.Json
import Wiring.Report
import Wiring.Text.Visible

/-!
# Output

What the commands print: summaries and plans as JSON, and plans as text.
-/

namespace Wiring

open JsonValue

def Mode.key : Mode → Text
  | .extend => "extend".toList
  | .create => "create".toList

def Status.key : Status → Text
  | .injected => "injected".toList
  | .present => "already_injected".toList
  | .noPlace => "pattern_not_matched".toList

def Report.json (r : Report) : JsonValue :=
  .object ([
    ("name".toList, .string r.name),
    ("path".toList, .string r.path),
    ("mode".toList, .string r.mode.key),
    ("status".toList, .string r.status.key)] ++
    match r.warning with
    | some warning => [("warning".toList, .string warning)]
    | none => [])

def Summary.json (s : Summary) : JsonValue :=
  .object [
    ("dry_run".toList, .boolean s.dryRun),
    ("injected".toList, .number s.injected),
    ("already_injected".toList, .number s.present),
    ("unmatched".toList, .number s.noPlace),
    ("reports".toList, .array (s.reports.map Report.json))]

def ScheduledController.json (c : ScheduledController) : JsonValue :=
  .object [
    ("controller".toList, .string c.controller),
    ("mode".toList, match c.mode with
      | some mode => .string mode.key
      | none => .null)]

def Instruction.json (i : Instruction) : JsonValue :=
  .object [
    ("controller".toList, .string i.controller),
    ("method".toList, .string i.method),
    ("line".toList, .number i.line.toNat),
    ("entity".toList, .string i.entity),
    ("instruction".toList, .string i.instruction)]

def FixPlan.json (p : FixPlan) : JsonValue :=
  .object [
    ("controllers".toList, .array (p.controllers.map ScheduledController.json)),
    ("total".toList, .number p.total),
    ("instructions".toList, .array (p.instructions.map Instruction.json))]

/-- The line that lists a controller, in pieces. -/
def ScheduledController.line (c : ScheduledController) : List Text :=
  let mode :=
    match c.mode with
    | some mode => mode.key
    | none => "not scheduled".toList
  ["- ".toList, c.controller, " (".toList, mode, [')', '\n']]

/-- The row of an instruction. Lines are approximate. -/
def Instruction.row (i : Instruction) : List Text :=
  [i.controller, i.method, '~' :: Nat.toDigits 10 i.line.toNat, i.entity, i.instruction]

def instructionHeader : List Text :=
  ["File".toList, "Method".toList, "Line".toList, "Entity".toList, "Fix".toList]

/-- The plan as text: the controllers, their number, and a table of the instructions. -/
def FixPlan.text (p : FixPlan) (type : Text) : Text :=
  if p.instructions = [] then printed "No fixes listed in the manifest.".toList
  else
    let title := "Controllers requiring ".toList ++ type ++ " injection:".toList
    printed title ++ printed (List.replicate title.length '=') ++ printed [] ++
      p.controllers.flatMap (fun c => visible c.line) ++ printed [] ++
      printed (s!"Total: {p.total} controllers".toList) ++ printed [] ++
      columnsText (instructionHeader :: p.instructions.map Instruction.row)

end Wiring
