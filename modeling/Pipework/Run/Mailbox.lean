/-!
# Mailboxes

A queue of events in the order in which they were posted, kept as a front and a reversed back.
-/

namespace Pipework

structure Mailbox (α : Type) where
  front : List α
  back : List α

namespace Mailbox

variable {α : Type}

def empty : Mailbox α := ⟨[], []⟩

def toList (m : Mailbox α) : List α := m.front ++ m.back.reverse

def isEmpty (m : Mailbox α) : Bool := m.front.isEmpty && m.back.isEmpty

def post (m : Mailbox α) (events : List α) : Mailbox α := ⟨m.front, events.reverse ++ m.back⟩

/-- The first event and the others. -/
def take? (m : Mailbox α) : Option (α × Mailbox α) :=
  match m.front with
  | e :: front => some (e, ⟨front, m.back⟩)
  | [] =>
    match m.back.reverse with
    | e :: front => some (e, ⟨front, []⟩)
    | [] => none

end Mailbox

end Pipework
