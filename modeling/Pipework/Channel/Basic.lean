import Pipework.Channel.Ring

/-!
# Input channels

A channel carries the standard input of a stage. Writes never wait: what the ring cannot hold goes
to an overflow behind it, and every read moves bytes from the overflow into the room it made. A
closed channel refuses writes and still yields what it holds; a terminated one refuses both. A reader
that finds nothing may wait at the channel, until bytes, the end of input or the teardown wake it.
-/

namespace Pipework

structure Channel where
  ring : Ring
  overflow : List UInt8
  closed : Bool
  terminated : Bool
  /-- A reader waits here for something to happen. -/
  waiting : Bool

namespace Channel

inductive Refusal where
  | closed
  | terminated
  deriving DecidableEq, Repr

def Refusal.message : Refusal → String
  | .closed => "stdin channel closed"
  | .terminated => "stdin channel terminated"

def defaultCapacity : Nat := 8192

def empty (capacity : Nat) : Channel := ⟨.empty capacity, [], false, false, false⟩

def capacity (c : Channel) : Nat := c.ring.capacity

/-- The number of bytes written and not yet read. -/
def pending (c : Channel) : Nat := c.ring.size + c.overflow.length

/-- The bytes written and not yet read. -/
def toList (c : Channel) : List UInt8 := c.ring.toList ++ c.overflow

/-- No write is accepted any more. -/
def isClosed (c : Channel) : Bool := c.closed || c.terminated

/-- The overflow stays behind the ring: while it holds anything, new bytes go there. The reader is
woken, unless there are no new bytes. -/
def accept (c : Channel) (data : List UInt8) : Channel :=
  let waiting := c.waiting && data.isEmpty
  if c.overflow.isEmpty then
    { c with
      ring := c.ring.store data
      overflow := data.drop c.ring.free
      waiting := waiting }
  else { c with overflow := c.overflow ++ data, waiting := waiting }

def write (c : Channel) (data : List UInt8) : Except Refusal Channel :=
  if c.terminated then .error .terminated
  else if c.closed then .error .closed
  else .ok (c.accept data)

/-- Wakes the reader, who finds the end of input behind what is held. -/
def close (c : Channel) : Channel := { c with closed := true, waiting := false }

/-- Wakes the reader, who is refused. -/
def terminate (c : Channel) : Channel :=
  { c with terminated := true, overflow := [], waiting := false }

/-- Moves bytes from the overflow into the free room of the ring. -/
def refill (c : Channel) : Channel :=
  { c with ring := c.ring.store c.overflow, overflow := c.overflow.drop c.ring.free }

/-- Takes bytes off the ring for a reader, who does not wait then. -/
def take (c : Channel) (limit : Nat) : Channel :=
  { c with ring := c.ring.drop limit, waiting := false }.refill

/-- What a read finds without waiting. No bytes at all means end of input, unless none were asked
for. -/
inductive Reading where
  | bytes (data : List UInt8) (after : Channel)
  | blocked
  | refused (why : Refusal)

def read (c : Channel) (limit : Nat) : Reading :=
  if c.terminated then .refused .terminated
  else if limit = 0 then .bytes [] c
  else if c.ring.size = 0 then
    if c.closed then .bytes [] c else .blocked
  else .bytes (c.ring.peek limit) (c.take limit)

/-- The reader waits from now on. -/
def await (c : Channel) : Channel := { c with waiting := true }

end Channel

end Pipework
