import Pipework.Fault
import Pipework.LineBuffer

/-!
# Rehearsals

A rehearsal stands in for the surroundings of a module: its input comes in given pieces, and a read
or a write may be told to fail. It counts the reads, the bytes handed out, and keeps the writes.
-/

namespace Pipework

structure Rehearsal where
  /-- An empty piece makes the read that meets it report the end of input. -/
  pieces : List Bytes
  failingRead : Option Nat
  failingWrite : Option Nat
  reads : Nat
  consumed : Nat
  writeCalls : Nat
  /-- What was written, last first. -/
  written : List Bytes

namespace Rehearsal

def ofPieces (pieces : List Bytes) (failingRead failingWrite : Option Nat) : Rehearsal :=
  ⟨pieces, failingRead, failingWrite, 0, 0, 0, []⟩

def readFault : Fault := .of "read failed"

def writeFault : Fault := .of "stage terminated"

/-- Hands out the first piece, or as much of it as was asked for. -/
def handOut (r : Rehearsal) (limit : Nat) : Bytes × Rehearsal :=
  match r.pieces with
  | [] => ([], r)
  | piece :: rest =>
    (piece.take limit,
      { r with
        pieces := if piece.length ≤ limit then rest else piece.drop limit :: rest
        consumed := r.consumed + (piece.take limit).length })

def read (r : Rehearsal) (limit : Nat) : Except Fault Bytes × Rehearsal :=
  let r := { r with reads := r.reads + 1 }
  if r.failingRead = some r.reads then (.error readFault, r)
  else
    let (data, r) := r.handOut limit
    (.ok data, r)

def write (r : Rehearsal) (data : Bytes) : Except Fault Unit × Rehearsal :=
  let r := { r with writeCalls := r.writeCalls + 1 }
  if r.failingWrite = some r.writeCalls then (.error writeFault, r)
  else (.ok (), { r with written := data :: r.written })

/-- Bytes and pieces still to come. -/
def remaining (r : Rehearsal) : Nat := r.pieces.foldr (fun piece n => piece.length + 1 + n) 0

theorem read_remaining {r after : Rehearsal} {limit : Nat} {data : Bytes}
    (h : r.read limit = (.ok data, after)) (hd : data ≠ []) : after.remaining < r.remaining := by
  unfold read at h
  simp only at h
  split at h
  · simp at h
  · unfold handOut at h
    simp only at h
    cases hp : r.pieces with
    | nil => simp [hp] at h; exact absurd h.1 hd
    | cons piece rest =>
      simp only [hp, Prod.mk.injEq, Except.ok.injEq] at h
      obtain ⟨hdata, hafter⟩ := h
      have hlen : 0 < (piece.take limit).length := by
        rw [hdata]; exact List.length_pos_iff.mpr hd
      simp only [List.length_take] at hlen
      subst hafter
      simp only [remaining, hp, List.foldr_cons]
      split
      · omega
      · simp only [List.foldr_cons, List.length_drop]
        omega

/-- The next line, reading as often as the buffer needs. -/
def nextLine (r : Rehearsal) (b : LineBuffer) :
    Except Fault (Option String) × LineBuffer × Rehearsal :=
  match b.poll with
  | .line text after => (.ok (some text), after, r)
  | .finished => (.ok none, b, r)
  | .starved =>
    match h : r.read LineBuffer.pieceLimit with
    | (.error fault, after) => (.error fault, b, after)
    | (.ok data, after) =>
      if hd : data = [] then
        match (b.feed []).poll with
        | .line text last => (.ok (some text), last, after)
        | _ => (.ok none, b.feed [], after)
      else
        have := read_remaining h hd
        after.nextLine (b.feed data)
termination_by r.remaining

/-- Everything up to the end of input. -/
def readAll (r : Rehearsal) (gathered : Bytes) : Except Fault Bytes × Rehearsal :=
  match h : r.read LineBuffer.pieceLimit with
  | (.error fault, after) => (.error fault, after)
  | (.ok data, after) =>
    if hd : data = [] then (.ok gathered, after)
    else
      have := read_remaining h hd
      after.readAll (gathered ++ data)
termination_by r.remaining

end Rehearsal

end Pipework
