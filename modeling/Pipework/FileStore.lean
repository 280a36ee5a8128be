import Pipework.Filesystem

/-!
# File stores

A file store maps paths to texts and is a filesystem: it is written out as a snapshot and replaced
as a whole by one. A value that is neither null nor an object of texts is refused and leaves the
store alone.
-/

namespace Pipework

structure FileStore where
  files : Dict String

namespace FileStore

def empty : FileStore := ⟨[]⟩

def ofList (entries : List (String × String)) : FileStore := ⟨Dict.ofList entries⟩

def read? (s : FileStore) (path : String) : Option String := s.files.get? path

def write (s : FileStore) (path content : String) : FileStore := ⟨s.files.insert path content⟩

def erase (s : FileStore) (path : String) : FileStore := ⟨s.files.erase path⟩

def paths (s : FileStore) : List String := s.files.keys

def snapshot (s : FileStore) : Snapshot := .textDict s.files

/-- The files of an object's fields; the first field that is no text is a fault. -/
def filesOf : List (String × Json) → Except Fault (List (String × String))
  | [] => .ok []
  | (path, .text content) :: rest =>
    match filesOf rest with
    | .ok files => .ok ((path, content) :: files)
    | .error fault => .error fault
  | (path, other) :: _ =>
    .error (.of (path ++ ": expected string content, got " ++ other.render))

def ofSnapshot : Snapshot → Except Fault FileStore
  | .object fields => (filesOf fields).map fun files => ⟨files⟩
  | .null => .ok empty
  | other => .error (.of ("snapshot must be an object, got " ++ other.render))

instance : Filesystem FileStore := ⟨snapshot, fun _ => ofSnapshot⟩

end FileStore

end Pipework
