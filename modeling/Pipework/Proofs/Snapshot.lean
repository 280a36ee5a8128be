import Pipework.Proofs.Dict
import Pipework.Snapshot

/-!
# Writing to snapshots

A snapshot that is an object or null takes any file, and a file that is written shows under its own
path only (`write_holdsFiles`).
-/

namespace Pipework

namespace Snapshot

/-- A snapshot that can hold files. -/
def HoldsFiles : Snapshot → Prop
  | .null | .object _ => True
  | _ => False

variable {s : Snapshot}

theorem write_holdsFiles (h : HoldsFiles s) (path content : String) :
    ∃ s', write s path content = .ok s' ∧ HoldsFiles s' ∧
      ∀ other, s'.field? other = if path = other then some (.text content) else s.field? other := by
  cases s with
  | null => exact ⟨_, rfl, trivial, fun other => rfl⟩
  | object fields => exact ⟨_, rfl, trivial, fun other => Dict.get?_insert fields path other _⟩
  | bool b => exact h.elim
  | number n => exact h.elim
  | fraction units places => exact h.elim
  | text s => exact h.elim
  | array items => exact h.elim

/-- What was written to holds files. -/
theorem holdsFiles_of_write {s' : Snapshot} {path content : String}
    (h : write s path content = .ok s') : HoldsFiles s' := by
  cases s <;> cases h <;> trivial

end Snapshot

end Pipework
