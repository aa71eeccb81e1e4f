import Scanout.SystemError

/-!
# A simulated directory

A directory with files but no directories in it, which relative paths start from. It is the
only directory there is, so the directory above it is itself.
-/

namespace Scanout

structure SimulatedDirectory where
  files : List (String × List UInt8)
  deriving Inhabited

namespace SimulatedDirectory

def empty : SimulatedDirectory := ⟨[]⟩

/-- The length that the name of a file must not exceed, in bytes. -/
def nameLimit : Nat := 255

/-- The length that a path must not reach, in bytes. -/
def pathLimit : Nat := 4096

def missing : SystemError := .numbered 2

def notDirectory : SystemError := .numbered 20

def isDirectory : SystemError := .numbered 21

def nameTooLong : SystemError := .numbered 36

/-- The error that a path cannot be given to the system. -/
def zeroInPath : SystemError :=
  .described .invalidInput "file name contained an unexpected NUL byte"

inductive Place
  | directory
  | file (bytes : List UInt8)

/-- Whether a part of a path stays in the directory it starts from. -/
def staysPut (part : String) : Bool := part == "" || part == "." || part == ".."

/-- The place a part of a path leads to. A part that says nothing still wants a directory to say
it of. -/
def step (d : SimulatedDirectory) (place : Place) (part : String) : Except SystemError Place :=
  match place with
  | .file _ => .error notDirectory
  | .directory =>
    if staysPut part then .ok .directory
    else if nameLimit < part.utf8ByteSize then .error nameTooLong
    else match d.files.lookup part with
      | some bytes => .ok (.file bytes)
      | none => .error missing

def follow (d : SimulatedDirectory) (path : String) : Except SystemError Place :=
  if '\x00' ∈ path.toList then .error zeroInPath
  else if path = "" then .error missing
  else if pathLimit ≤ path.utf8ByteSize then .error nameTooLong
  else (path.splitOn "/").foldlM d.step .directory

def read (d : SimulatedDirectory) (path : String) : Except SystemError (List UInt8) :=
  match d.follow path with
  | .error e => .error e
  | .ok .directory => .error isDirectory
  | .ok (.file bytes) => .ok bytes

/-- Whether a part of a path is the name of a file that could be in the directory. -/
def isName (part : String) : Bool :=
  !staysPut part && part.utf8ByteSize ≤ nameLimit && part.toList.all (· ≠ '\x00')

/-- The name of the file that a path is for, when it leads to one that could be in the
directory. A path that starts with a separator does not start from the directory. -/
def nameAt? (path : String) : Option String :=
  match (path.splitOn "/").reverse with
  | [] => none
  | name :: parts =>
    if isName name && parts.all staysPut && !path.startsWith "/" && path.utf8ByteSize < pathLimit
    then some name
    else none

/-- Puts a file into the directory. Nothing comes of a path that no file could have. -/
def write (d : SimulatedDirectory) (path : String) (bytes : List UInt8) : SimulatedDirectory :=
  match nameAt? path with
  | some name => ⟨(name, bytes) :: d.files⟩
  | none => d

end SimulatedDirectory
end Scanout
