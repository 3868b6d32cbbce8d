import Wiring.Manifest.Basic
import Wiring.Text.Quoted
import Wiring.Toml.Document

/-!
# Reading manifests

A manifest is read from a table. Keys may come in any order and those that mean nothing are
skipped; a field that is left out has its default, if there is one. The dependency, the accessors
and a fix may also be written as an array of their fields. The first fault in the order of the
document is the one reported.
-/

namespace Wiring

open Toml (Value Table)

/-- What a value should have been. -/
inductive Expected where
  | sequence
  | string
  | lineNumber
  | dependency
  | accessors
  | fix
deriving DecidableEq, Repr

def Expected.text : Expected → Text
  | .sequence => "a sequence".toList
  | .string => "a string".toList
  | .lineNumber => "u32".toList
  | .dependency => "struct Dependency".toList
  | .accessors => "struct PlanSettings".toList
  | .fix => "struct Fix".toList

/-- How a message names a value. A date counts as a map. -/
def describe : Value → Text
  | .string s => "string ".toList ++ quoted s
  | .integer n => "integer `".toList ++ (toString n).toList ++ ['`']
  | .float x => "floating point `".toList ++ x.text ++ ['`']
  | .boolean b => "boolean `".toList ++ (if b then "true".toList else "false".toList) ++ ['`']
  | .datetime _ => "map".toList
  | .array _ => "sequence".toList
  | .table _ => "map".toList

inductive DecodeFault where
  | invalidType (found : Value) (expected : Expected)
  | outOfRange (found : Int)
  | missingField (name : Text)
  | tooShort (length : Nat)

def DecodeFault.message : DecodeFault → Text
  | .invalidType found expected =>
    "invalid type: ".toList ++ describe found ++ ", expected ".toList ++ expected.text
  | .outOfRange found =>
    "invalid value: ".toList ++ describe (.integer found) ++ ", expected ".toList ++
      Expected.lineNumber.text
  | .missingField name => "missing field `".toList ++ name ++ ['`']
  | .tooShort length =>
    "invalid length ".toList ++ (toString length).toList ++ ", expected ".toList ++
      Expected.fix.text ++ " with 5 elements".toList

/-! ## Values -/

def decodeText : Value → Except DecodeFault Text
  | .string s => .ok s
  | v => .error (.invalidType v .string)

def decodeLine : Value → Except DecodeFault UInt32
  | .integer n => if 0 ≤ n ∧ n < UInt32.size then .ok (.ofNat n.toNat) else .error (.outOfRange n)
  | v => .error (.invalidType v .lineNumber)

def decodeList {α : Type} (decode : Value → Except DecodeFault α) :
    Value → Except DecodeFault (List α)
  | .array vs => vs.mapM decode
  | v => .error (.invalidType v .sequence)

/-! ## Records -/

/-- How the value of each key changes a record: nothing for a key that is not one of its fields. -/
abbrev Fields (α : Type) := Text → α → Value → Except DecodeFault α

/-- A record from the entries of a table, in their order. -/
def decodeEntries {α : Type} (fields : Fields α) (start : α) (entries : Table) :
    Except DecodeFault α :=
  entries.foldlM (fun record entry => fields entry.1 record entry.2) start

/-- A record from its fields by name or, in the order of `names`, by place. A date is a table
without any of the fields. -/
def decodeRecord {α : Type} (expected : Expected) (names : List Text) (fields : Fields α)
    (start : α) : Value → Except DecodeFault α
  | .table entries => decodeEntries fields start entries
  | .datetime _ => .ok start
  | .array vs => decodeEntries fields start (names.zip vs)
  | v => .error (.invalidType v expected)

def Dependency.field : Fields Dependency := fun key d v =>
  if key = "type".toList then do return { d with type := ← decodeText v }
  else if key = "name".toList then do return { d with name := ← decodeText v }
  else if key = "import".toList then do return { d with imported := some (← decodeText v) }
  else .ok d

def decodeDependency : Value → Except DecodeFault Dependency :=
  decodeRecord .dependency ["type".toList, "name".toList, "import".toList] Dependency.field {}

def Accessors.field : Fields Accessors := fun key a v =>
  if key = "setter".toList then do return { a with setter := ← decodeText v }
  else if key = "current_getter".toList then do return { a with currentGetter := ← decodeText v }
  else if key = "parent_getter".toList then do return { a with parentGetter := ← decodeText v }
  else .ok a

def decodeAccessors : Value → Except DecodeFault Accessors :=
  decodeRecord .accessors ["setter".toList, "current_getter".toList, "parent_getter".toList]
    Accessors.field {}

/-- A fix whose fields are not all known yet. -/
structure PartialFix where
  controller : Option Text := none
  entity : Option Text := none
  method : Option Text := none
  line : Option UInt32 := none
  inheritFrom : Option Text := none

def PartialFix.field : Fields PartialFix := fun key f v =>
  if key = "controller".toList then do return { f with controller := some (← decodeText v) }
  else if key = "entity".toList then do return { f with entity := some (← decodeText v) }
  else if key = "method".toList then do return { f with method := some (← decodeText v) }
  else if key = "line".toList then do return { f with line := some (← decodeLine v) }
  else if key = "inherit_from".toList then do
    return { f with inheritFrom := some (← decodeText v) }
  else .ok f

/-- A field that has no default. -/
def required {α : Type} (fault : DecodeFault) : Option α → Except DecodeFault α
  | some a => .ok a
  | none => .error fault

/-- The fix, if no field is missing. `fault` gives the fault of a missing field by its name and
its place. -/
def PartialFix.complete (fault : Text → Nat → DecodeFault) (f : PartialFix) :
    Except DecodeFault Fix := do
  let controller ← required (fault "controller".toList 0) f.controller
  let entity ← required (fault "entity".toList 1) f.entity
  let method ← required (fault "method".toList 2) f.method
  let line ← required (fault "line".toList 3) f.line
  return { controller, entity, method, line, inheritFrom := f.inheritFrom }

def decodeFix (v : Value) : Except DecodeFault Fix := do
  let f ← decodeRecord .fix
    ["controller".toList, "entity".toList, "method".toList, "line".toList, "inherit_from".toList]
    PartialFix.field {} v
  f.complete fun name place =>
    match v with
    | .array _ => .tooShort place
    | _ => .missingField name

def Manifest.field : Fields Manifest := fun key m v =>
  if key = "path_template".toList then do return { m with pathTemplate := ← decodeText v }
  else if key = "extend".toList then do return { m with extend := ← decodeList decodeText v }
  else if key = "create".toList then do return { m with create := ← decodeList decodeText v }
  else if key = "dependency".toList then do return { m with dependency := ← decodeDependency v }
  else if key = "plan".toList then do return { m with accessors := ← decodeAccessors v }
  else if key = "fix".toList then do return { m with fixes := ← decodeList decodeFix v }
  else .ok m

def Manifest.ofTable (table : Table) : Except DecodeFault Manifest :=
  decodeEntries Manifest.field {} table

/-! ## Texts -/

inductive ParseFault where
  /-- The text is no document. -/
  | malformed
  /-- The document is no manifest. -/
  | mismatch (fault : DecodeFault)

def Manifest.parse (s : Text) : Except ParseFault Manifest :=
  match Toml.parseDocument s with
  | none => .error .malformed
  | some table => (Manifest.ofTable table).mapError .mismatch

end Wiring
