/-!
# Rings of bytes

A ring keeps the stretch of a byte stream that was stored and not yet taken. Cursors count bytes
from the start of the stream and never go back; byte number `p` stands in slot `p % capacity`.
Slots come into being when they are first stored to.
-/

namespace Pipework

structure Ring where
  capacity : Nat
  positive : 0 < capacity
  slots : Array UInt8
  written : Nat
  taken : Nat

namespace Ring

/-- A capacity of nothing counts as one byte. -/
def empty (capacity : Nat) : Ring where
  capacity := max capacity 1
  positive := by omega
  slots := #[]
  written := 0
  taken := 0

def size (r : Ring) : Nat := r.written - r.taken

def free (r : Ring) : Nat := r.capacity - r.size

def slot (r : Ring) (position : Nat) : UInt8 := r.slots.getD (position % r.capacity) 0

/-- Stores one byte whether or not there is room for it. -/
def put (r : Ring) (b : UInt8) : Ring :=
  let i := r.written % r.capacity
  { r with
    slots := if i < r.slots.size then r.slots.set! i b else r.slots.push b
    written := r.written + 1 }

/-- Stores as many bytes as there is room for. -/
def store (r : Ring) (data : List UInt8) : Ring := (data.take r.free).foldl put r

/-- The bytes held, in order. -/
def toList (r : Ring) : List UInt8 := (List.range r.size).map fun i => r.slot (r.taken + i)

/-- The first bytes held, at most `limit`. -/
def peek (r : Ring) (limit : Nat) : List UInt8 :=
  (List.range (min limit r.size)).map fun i => r.slot (r.taken + i)

def drop (r : Ring) (limit : Nat) : Ring := { r with taken := r.taken + min limit r.size }

/-- The number of the last byte stored. -/
def lastStored? (r : Ring) : Option Nat := if r.written = 0 then none else some (r.written - 1)

end Ring

end Pipework
