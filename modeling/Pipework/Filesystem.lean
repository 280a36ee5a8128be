import Pipework.Fault
import Pipework.Snapshot

/-!
# Filesystems

What runs go by when they keep files: a snapshot of them is given out to a stage, and a snapshot
that a stage has changed replaces them as a whole. A filesystem may refuse a snapshot and then stays
as it is.
-/

namespace Pipework

class Filesystem (F : Type) where
  snapshot : F → Snapshot
  /-- The filesystem that a snapshot makes of this one. -/
  accept : F → Snapshot → Except Fault F

/-- Filesystems that hold what a snapshot holds when they have taken it over. -/
class LawfulFilesystem (F : Type) [Filesystem F] : Prop where
  read?_accepted {files after : F} {s : Snapshot} (h : Filesystem.accept files s = .ok after)
    (path : String) : Snapshot.read? (Filesystem.snapshot after) path = Snapshot.read? s path

end Pipework
