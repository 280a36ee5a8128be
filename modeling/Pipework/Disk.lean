import Pipework.Dict
import Pipework.Fault
import Pipework.Text.Utf8

/-!
# Disks

The files and directories around the program, as they stand when it looks. Paths are read from the
working directory, or from the root if they start with a slash: components between slashes, `.` for
the directory itself, `..` for the one around it.
-/

namespace Pipework

inductive Disk.Entry where
  | file (content : Bytes)
  | directory
  /-- Something that is there and cannot be read. -/
  | barred (message : String)
  deriving DecidableEq, Repr

/-- Entries under their plain paths. A directory also exists when something lies in it. -/
structure Disk where
  entries : Dict Disk.Entry

namespace Disk

/-- What is found under a path. -/
inductive Finding where
  | file (content : Bytes)
  | directory
  | missing
  | refused (message : String)
  deriving DecidableEq, Repr

def components (path : String) : List String :=
  ((path.toList.splitOn '/').map String.ofList).filter fun c => c != "" && c != "."

/-- The directory that a path is read from: the root or the working directory. -/
inductive Base where
  | root
  | here
  deriving DecidableEq, Repr

def baseOf (path : String) : Base := if path.toList.head? = some '/' then .root else .here

def plain (base : Base) (components : List String) : String :=
  (if base = .root then "/" else "") ++ "/".intercalate components

def ofList (entries : List (String × Entry)) : Disk :=
  ⟨Dict.ofList (entries.map fun (path, e) => (plain (baseOf path) (components path), e))⟩

def hasBelow (d : Disk) (path : String) : Bool :=
  let stem := (path ++ "/").toList
  d.entries.any fun e => stem.isPrefixOf e.1.toList

def entry? (d : Disk) (base : Base) (components : List String) : Option Entry :=
  if components.isEmpty then some .directory
  else
    let path := plain base components
    match d.entries.get? path with
    | some e => some e
    | none => if d.hasBelow path then some .directory else none

def nameLimit : Nat := 255

def pathLimit : Nat := 4096

def tooLong : String := "File name too long (os error 36)"

def notDirectory : String := "Not a directory (os error 20)"

/-- Follows the components from a directory; all but the last must be directories. -/
def walk (d : Disk) (base : Base) (at' : List String) : List String → Finding
  | [] =>
    match d.entry? base at' with
    | some (.file content) => .file content
    | some .directory => .directory
    | some (.barred message) => .refused message
    | none => .missing
  | c :: rest =>
    match d.entry? base at' with
    | some .directory =>
      if nameLimit < c.utf8ByteSize then .refused tooLong
      else if c = ".." then
        if at'.isEmpty && base = .here then .missing else walk d base at'.dropLast rest
      else walk d base (at' ++ [c]) rest
    | some (.file _) => .refused notDirectory
    | some (.barred message) => .refused message
    | none => .missing

/-- Why a path cannot be looked at, whatever the disk holds. -/
def flaw? (path : String) : Option String :=
  if path.toList.contains '\x00' then some "file name contained an unexpected NUL byte"
  else if pathLimit ≤ path.utf8ByteSize then some tooLong
  else none

def find (d : Disk) (path : String) : Finding :=
  match flaw? path with
  | some message => .refused message
  | none =>
    if path.isEmpty then .missing
    else
      match d.walk (baseOf path) [] (components path) with
      | .file content =>
        if path.toList.getLast? = some '/' then .refused notDirectory else .file content
      | other => other

def isDirectory (d : Disk) (path : String) : Bool := d.find path == .directory

def isPresent (d : Disk) (path : String) : Bool :=
  match d.find path with
  | .file _ | .directory => true
  | .missing | .refused _ => false

/-- The content of a file. -/
def readFile (d : Disk) (path : String) : Except Fault Bytes :=
  match d.find path with
  | .file content => .ok content
  | .directory => .error (.of "Is a directory (os error 21)")
  | .missing => .error (.of "No such file or directory (os error 2)")
  | .refused message => .error (.of message)

/-- Whether directories can be made along the components, where there are none yet. -/
def canMake (d : Disk) (base : Base) (at' : List String) : List String → Bool
  | [] => true
  | c :: rest =>
    if c = ".." then canMake d base at'.dropLast rest
    else
      c.utf8ByteSize ≤ nameLimit &&
        (match d.entry? base (at' ++ [c]) with
        | some .directory | none => true
        | some (.file _) | some (.barred _) => false) &&
        canMake d base (at' ++ [c]) rest

/-- Whether a path is a directory or can be made one. -/
def canBeDirectory (d : Disk) (path : String) : Bool :=
  (flaw? path).isNone && d.canMake (baseOf path) [] (components path)

/-- A path with another behind it; one that starts with a slash stands for itself. -/
def join (path more : String) : String :=
  if more.toList.head? = some '/' then more
  else if path.isEmpty then more
  else if path.toList.getLast? = some '/' then path ++ more
  else path ++ "/" ++ more

end Disk

end Pipework
