import Wiring.Path
import Wiring.Text.Utf8

/-!
# Disks

Files with their bytes, found by path. A path is followed from the working directory, or from the
root of the disk if it is absolute, one segment at a time.
-/

namespace Wiring

/-- The names from the root of a disk down to a file or a directory. -/
abbrev Location := List Text

structure File where
  bytes : Bytes
  /-- A sealed file can be read but not written. -/
  isSealed : Bool := false
deriving DecidableEq, Repr

structure Disk where
  workingDirectory : Location := []
  files : List (Location × File) := []
  directories : List Location := []
deriving DecidableEq, Repr

inductive FileFault where
  | missing
  | notADirectory
  | isADirectory
  | nameTooLong
  | nulCharacter
  | notPermitted
deriving DecidableEq, Repr

def FileFault.message : FileFault → Text
  | .missing => "No such file or directory (os error 2)".toList
  | .notADirectory => "Not a directory (os error 20)".toList
  | .isADirectory => "Is a directory (os error 21)".toList
  | .nameTooLong => "File name too long (os error 36)".toList
  | .nulCharacter => "file name contained an unexpected NUL byte".toList
  | .notPermitted => "Operation not permitted (os error 1)".toList

def Disk.file? (d : Disk) (l : Location) : Option File := d.files.lookup l

/-- A directory is listed, or something lies below it. -/
def Disk.isDirectory (d : Disk) (l : Location) : Bool :=
  (d.workingDirectory :: d.directories).any l.isPrefixOf ||
    d.files.any fun f => l.isPrefixOf f.1 && l != f.1

/-- One segment further. Empty segments and single dots stay where they are. -/
def Disk.enter (d : Disk) (l : Location) (segment : Text) : Except FileFault Location :=
  if ¬ d.isDirectory l then .error .notADirectory
  else if segment = [] ∨ segment = ['.'] then .ok l
  else if segment = ['.', '.'] then .ok l.dropLast
  else if 255 < byteLength segment then .error .nameTooLong
  else if (d.file? (l ++ [segment])).isSome || d.isDirectory (l ++ [segment]) then
    .ok (l ++ [segment])
  else .error .missing

/-- Where a path leads. -/
def Disk.locate (d : Disk) (path : Text) : Except FileFault Location :=
  if Char.ofNat 0 ∈ path then .error .nulCharacter
  else if path = [] then .error .missing
  else if 4095 < byteLength path then .error .nameTooLong
  else
    (pieces '/' path).foldlM d.enter (if isAbsolute path then [] else d.workingDirectory)

/-- The file at a path, with its location. -/
def Disk.open (d : Disk) (path : Text) : Except FileFault (Location × File) := do
  let l ← d.locate path
  match d.file? l with
  | some file => return (l, file)
  | none => throw .isADirectory

def Disk.read (d : Disk) (path : Text) : Except FileFault Bytes := do
  return (← d.open path).2.bytes

/-- The disk with other bytes in a file. -/
def Disk.replace (d : Disk) (l : Location) (bytes : Bytes) : Disk :=
  { d with files := d.files.map fun f => if f.1 = l then (l, { f.2 with bytes }) else f }

/-- Replaces all bytes of a file that is there. -/
def Disk.write (d : Disk) (path : Text) (bytes : Bytes) : Except FileFault Disk := do
  let (l, file) ← d.open path
  if file.isSealed then throw .notPermitted else return d.replace l bytes

end Wiring
