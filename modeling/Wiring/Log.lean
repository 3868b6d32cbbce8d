import Wiring.Report

/-!
# Logs

What a command notes down while it works.
-/

namespace Wiring

inductive LogEntry where
  | noManifest
  | loaded (path : Text) (extend create fixes : Nat)
  | reading (path : Text)
  | processed (name : Text) (mode : Mode) (status : Status)
  | notImported (path : Text)
  | leftUntouched (path : Text)
  | wrote (bytes : Nat) (path : Text)
deriving DecidableEq, Repr

def Mode.label : Mode → Text
  | .extend => "Extend".toList
  | .create => "Create".toList

def Status.label : Status → Text
  | .injected => "Injected".toList
  | .present => "AlreadyInjected".toList
  | .noPlace => "PatternNotMatched".toList

def LogEntry.text : LogEntry → Text
  | .noManifest => "DEBUG no manifest given, starting from an empty target list".toList
  | .loaded path extend create fixes =>
    "DEBUG loaded manifest ".toList ++ path ++
      s!": {extend} extend, {create} create, {fixes} fixes".toList
  | .reading path => "DEBUG reading ".toList ++ path
  | .processed name mode status =>
    "DEBUG ".toList ++ name ++ " (".toList ++ mode.label ++ "): ".toList ++ status.label ++
      ", changed: ".toList ++ (if status = .injected then "true".toList else "false".toList)
  | .notImported path =>
    "WARN ".toList ++ path ++ ": no namespace or use statements, import not added".toList
  | .leftUntouched path => "INFO dry run, leaving ".toList ++ path ++ " untouched".toList
  | .wrote bytes path => s!"DEBUG wrote {bytes} bytes to ".toList ++ path

end Wiring
