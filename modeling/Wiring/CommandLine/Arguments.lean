import Wiring.Text.Basic

/-!
# Arguments

The command line: options of the program, a command, and options of the command. Options have
long names, some a letter too; a value follows its option or is attached to it. Variables of the
environment stand in for options that are not given.
-/

namespace Wiring

inductive UsageFault where
  | help
  | version
  /-- Nothing was given at all. -/
  | nothingGiven
  | missingCommand
  | unknownCommand
  | unknownArgument
  /-- A value is missing or is not one of those allowed. -/
  | badValue
  | missingArgument
  /-- An option was given twice. -/
  | repeatedArgument
  /-- A value was attached to an option that takes none. -/
  | unexpectedValue
deriving DecidableEq, Repr

structure RunOptions where
  manifest : Option Text := none
  extend : List Text := []
  create : List Text := []
  pathTemplate : Option Text := none
  type : Option Text := none
  name : Option Text := none
  imported : Option Text := none
  dryRun : Bool := false
  json : Bool := false
deriving DecidableEq, Repr

structure PlanOptions where
  manifest : Text
  json : Bool := false
deriving DecidableEq, Repr

inductive Command where
  | run (options : RunOptions)
  | plan (options : PlanOptions)
deriving DecidableEq, Repr

structure Invocation where
  root : Text
  verbose : Bool
  command : Command
deriving DecidableEq, Repr

/-- The variables that stand in for options. -/
structure Environment where
  root : Option Text := none
  verbose : Option Text := none
  manifest : Option Text := none
deriving DecidableEq, Repr

/-! ## Options -/

inductive OptionName where
  | root
  | verbose
  | help
  | version
  | manifest
  | extend
  | create
  | pathTemplate
  | type
  | name
  | imported
  | dryRun
  | json
deriving DecidableEq, Repr

/-- Where options may stand: before the command, or after one of the commands. -/
inductive Level where
  | program
  | run
  | plan
deriving DecidableEq, Repr

def OptionName.long : OptionName → Text
  | .root => "root".toList
  | .verbose => "verbose".toList
  | .help => "help".toList
  | .version => "version".toList
  | .manifest => "manifest".toList
  | .extend => "extend".toList
  | .create => "create".toList
  | .pathTemplate => "path-template".toList
  | .type => "type".toList
  | .name => "name".toList
  | .imported => "import".toList
  | .dryRun => "dry-run".toList
  | .json => "json".toList

def OptionName.letter : OptionName → Option Char
  | .help => some 'h'
  | .version => some 'V'
  | .manifest => some 'm'
  | _ => none

def OptionName.takesValue : OptionName → Bool
  | .verbose | .help | .version | .dryRun | .json => false
  | _ => true

def OptionName.isRepeatable : OptionName → Bool
  | .extend | .create => true
  | _ => false

/-- Paths must not be empty. -/
def OptionName.isPath : OptionName → Bool
  | .root | .manifest => true
  | _ => false

def Level.options : Level → List OptionName
  | .program => [.root, .verbose, .help, .version]
  | .run =>
    [.root, .verbose, .help, .manifest, .extend, .create, .pathTemplate, .type, .name, .imported,
      .dryRun, .json]
  | .plan => [.root, .verbose, .help, .manifest, .json]

def Level.long? (level : Level) (name : Text) : Option OptionName :=
  level.options.find? fun o => o.long == name

def Level.letter? (level : Level) (c : Char) : Option OptionName :=
  level.options.find? fun o => o.letter == some c

/-! ## Reading one level -/

/-- The options given so far, flags with an empty value. The last one may still wait for its
value, or for the next argument to be taken into account. -/
structure Given where
  values : List (OptionName × Text) := []
  pending : Option (OptionName × Option Text) := none
deriving DecidableEq, Repr

def Given.value? (g : Given) (o : OptionName) : Option Text := g.values.lookup o

def Given.has (g : Given) (o : OptionName) : Bool := (g.value? o).isSome

def Given.all (g : Given) (o : OptionName) : List Text :=
  (g.values.filter (·.1 = o)).map (·.2)

/-- Whether the next argument is the value of an option, unless it looks like an option. -/
def Given.awaits (g : Given) : Bool :=
  match g.pending with
  | some (_, none) => true
  | _ => false

def Given.put (g : Given) (o : OptionName) (value : Text) : Except UsageFault Given :=
  if g.has o ∧ ¬ o.isRepeatable then .error .repeatedArgument
  else if o.isPath ∧ value = [] then .error .badValue
  else .ok { g with values := g.values ++ [(o, value)] }

/-- Takes the last option into account. -/
def Given.settle (g : Given) : Except UsageFault Given :=
  match g.pending with
  | none => .ok g
  | some (_, none) => .error .badValue
  | some (o, some value) => { g with pending := none }.put o value

/-- An option with the value attached to it, or one whose value is to follow. -/
def Given.addOption (g : Given) (o : OptionName) (attached : Option Text) :
    Except UsageFault Given := do
  let g ← g.settle
  match attached with
  | some value => g.put o value
  | none => return { g with pending := some (o, none) }

def Given.addFlag (g : Given) (o : OptionName) : Except UsageFault Given := do
  let g ← g.settle
  match o with
  | .help => throw .help
  | .version => throw .version
  | _ => g.put o []

/-- An argument after its two dashes. -/
def Level.readLong (level : Level) (g : Given) (argument : Text) : Except UsageFault Given :=
  let name := argument.takeWhile (· ≠ '=')
  let attached := after? ['='] (argument.dropWhile (· ≠ '='))
  match level.long? name with
  | none => .error .unknownArgument
  | some o =>
    if o.takesValue then g.addOption o attached
    else if attached.isSome then .error .unexpectedValue
    else g.addFlag o

/-- An argument after its dash: letters of flags, and one of an option with the value attached. -/
def Level.readLetters (level : Level) (g : Given) : Text → Except UsageFault Given
  | [] => .ok g
  | c :: letters =>
    match level.letter? c with
    | none => .error .unknownArgument
    | some o =>
      if o.takesValue then
        g.addOption o (if letters = [] then none else some ((after? ['='] letters).getD letters))
      else do
        let g ← g.addFlag o
        level.readLetters g letters

def isCommandName (argument : Text) : Bool :=
  argument = "run".toList || argument = "plan".toList || argument = "help".toList

/-- An argument that is neither an option nor a value. -/
def Level.stray (level : Level) (afterDashes : Bool) (argument : Text) : UsageFault :=
  match level with
  | .program => if afterDashes && isCommandName argument then .unknownArgument else .unknownCommand
  | _ => .unknownArgument

/-- The options of a level, up to a command if it can have one, and the command with all that
follows it. -/
def Level.read (level : Level) (g : Given) :
    List Text → Except UsageFault (Given × Option (Text × List Text))
  | [] => .ok (g, none)
  | argument :: rest =>
    if level = .program ∧ ¬ g.awaits ∧ isCommandName argument then .ok (g, some (argument, rest))
    else
      match argument with
      | ['-', '-'] =>
        match rest with
        | [] => .ok (g, none)
        | stray :: _ => .error (level.stray true stray)
      | '-' :: '-' :: long => do
        let g ← level.readLong g long
        level.read g rest
      | '-' :: c :: letters => do
        let g ← level.readLetters g (c :: letters)
        level.read g rest
      | value =>
        match g.pending with
        | some (o, none) => level.read { g with pending := some (o, some value) } rest
        | _ => .error (level.stray false value)

/-! ## The environment -/

/-- The variable that stands in for a path, if the option is not given. -/
def Given.pathOr (g : Given) (o : OptionName) (fallback : Option Text) :
    Except UsageFault (Option Text) :=
  if g.has o then .ok none
  else if fallback = some [] then .error .badValue
  else .ok fallback

/-- The variable that stands in for a flag, if the flag is not given. -/
def Given.flagOr (g : Given) (o : OptionName) (fallback : Option Text) :
    Except UsageFault (Option Bool) :=
  if g.has o then .ok none
  else
    match fallback with
    | none => .ok none
    | some value =>
      if value = "true".toList then .ok (some true)
      else if value = "false".toList then .ok (some false)
      else .error .badValue

/-! ## The whole command line -/

/-- Help names a command, or none. -/
def helpFault : List Text → UsageFault
  | [] => .help
  | [command] => if isCommandName command then .help else .unknownCommand
  | _ => .unknownCommand

/-- The options of a command and the manifest, which a variable may name. -/
def Level.readCommand (level : Level) (env : Environment) (arguments : List Text) :
    Except UsageFault (Given × Option Text) := do
  let (g, _) ← level.read {} arguments
  let g ← g.settle
  let manifest ← g.pathOr .manifest env.manifest
  let _ ← g.pathOr .root env.root
  let _ ← g.flagOr .verbose env.verbose
  return (g, (g.value? .manifest).or manifest)

def Given.runOptions (g : Given) (manifest : Option Text) : RunOptions where
  manifest := manifest
  extend := g.all .extend
  create := g.all .create
  pathTemplate := g.value? .pathTemplate
  type := g.value? .type
  name := g.value? .name
  imported := g.value? .imported
  dryRun := g.has .dryRun
  json := g.has .json

/-- The command and the options after its name. -/
def readCommand (env : Environment) (name : Text) (arguments : List Text) :
    Except UsageFault (Given × Command) :=
  if name = "run".toList then do
    let (g, manifest) ← Level.run.readCommand env arguments
    return (g, .run (g.runOptions manifest))
  else if name = "plan".toList then do
    let (g, manifest) ← Level.plan.readCommand env arguments
    match manifest with
    | some manifest => return (g, .plan { manifest, json := g.has .json })
    | none => throw .missingArgument
  else .error (helpFault arguments)

/-- An option given after the command wins over one before it, and both over the environment. -/
def Invocation.ofArguments (env : Environment) (arguments : List Text) :
    Except UsageFault Invocation := do
  let (g, rest) ← Level.program.read {} arguments
  let command ← rest.mapM fun (name, arguments) => readCommand env name arguments
  let g ← g.settle
  let root ← g.pathOr .root env.root
  let verbose ← g.flagOr .verbose env.verbose
  match command with
  | none => throw (if g.values = [] ∧ root = none ∧ verbose = none then .nothingGiven
      else .missingCommand)
  | some (after, command) =>
    return {
      root := ((after.value? .root).or (g.value? .root)).getD (env.root.getD ['.'])
      verbose := after.has .verbose || g.has .verbose || env.verbose == some "true".toList
      command }

end Wiring
