import Pipework.Fault
import Pipework.Json

/-!
# Snapshots

A snapshot is the state of a file store as a value that a stage edits on its own copy: an object
from paths to texts, or null for no files at all. Editing looks at what the value is and refuses
one that cannot hold files.
-/

namespace Pipework

abbrev Snapshot := Json

namespace Snapshot

/-- The text under a path, if the value is an object that holds one there. -/
def read? (s : Snapshot) (path : String) : Option String :=
  s.field? path >>= Json.text?

/-- An object takes the file; null becomes an object first. -/
def write (s : Snapshot) (path content : String) : Except Fault Snapshot :=
  match s with
  | .object fields => .ok (.object (Dict.insert path (.text content) fields))
  | .null => .ok (.object [(path, .text content)])
  | _ => .error (.of "snapshot is not a file map")

/-- The removed text and what is left. A value under the path that is no text goes too. -/
def remove (s : Snapshot) (path : String) : Option String × Snapshot :=
  match s with
  | .object fields =>
    match Dict.get? fields path with
    | some value => (value.text?, .object (Dict.erase path fields))
    | none => (none, s)
  | _ => (none, s)

end Snapshot

end Pipework
