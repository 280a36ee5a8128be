import Pipework.Proofs.Channel

/-!
# Channels and unbounded queues

Whatever is done to a channel, in whatever order, its answers are those of a queue of bytes without
bounds (`Queue`); the capacity shows only in how much a single read may yield.

* `apply_refines` — one operation on a channel is the same operation on the queue it stands for.
* `queue_refined` — so is every sequence of operations on a new channel; what was read is a prefix
  of what was accepted, and no wake-up is lost: a reader waits only while a read would find nothing,
  and the next operation that concerns it wakes it and lets its read return.
-/

namespace Pipework

namespace Channel

/-- What is done to a channel. A read that finds nothing is answered `blocked`; if it may wait, its
reader waits from then on, and reads again when it is woken. -/
inductive Op where
  | write (data : List UInt8)
  | close
  | terminate
  | read (limit : Nat) (mayWait : Bool)
  deriving DecidableEq, Repr

inductive Answer where
  | done
  | bytes (data : List UInt8)
  | blocked
  | refused (why : Refusal)
  deriving DecidableEq, Repr

def apply (c : Channel) : Op → Answer × Channel
  | .write data =>
    match c.write data with
    | .ok after => (.done, after)
    | .error why => (.refused why, c)
  | .close => (.done, c.close)
  | .terminate => (.done, c.terminate)
  | .read limit mayWait =>
    match c.read limit with
    | .bytes data after => (.bytes data, after)
    | .blocked => (.blocked, if mayWait then c.await else c)
    | .refused why => (.refused why, c)

/-- The answers to a sequence of operations and the channel afterwards. -/
def run (c : Channel) : List Op → List Answer × Channel
  | [] => ([], c)
  | op :: ops =>
    let (answers, after) := run (c.apply op).2 ops
    ((c.apply op).1 :: answers, after)

/-- The bytes that were written before the first close or terminate. -/
def accepted : List Op → List UInt8
  | [] => []
  | .write data :: ops => data ++ accepted ops
  | .read .. :: ops => accepted ops
  | .close :: _ | .terminate :: _ => []

def Answer.data : Answer → List UInt8
  | .bytes data => data
  | _ => []

/-! ## Queues -/

/-- Bytes waiting to be read, with what has become of the two ends and whether a reader waits. -/
structure Queue where
  bytes : List UInt8
  closed : Bool
  terminated : Bool
  waiting : Bool
  deriving DecidableEq, Repr

namespace Queue

def empty : Queue := ⟨[], false, false, false⟩

/-- A single read yields at most `most` bytes. A reader waits until bytes come, or the end of input, or
the teardown. -/
def apply (most : Nat) (q : Queue) : Op → Answer × Queue
  | .write data =>
    if q.terminated then (.refused .terminated, q)
    else if q.closed then (.refused .closed, q)
    else if data = [] then (.done, q)
    else (.done, { q with bytes := q.bytes ++ data, waiting := false })
  | .close => (.done, { q with closed := true, waiting := false })
  | .terminate => (.done, { q with terminated := true, waiting := false })
  | .read limit mayWait =>
    if q.terminated then (.refused .terminated, q)
    else if limit = 0 then (.bytes [], q)
    else if q.bytes ≠ [] then
      (.bytes (q.bytes.take (min limit most)), { q with bytes := q.bytes.drop (min limit most) })
    else if q.closed then (.bytes [], q)
    else (.blocked, { q with waiting := q.waiting || mayWait })

def run (most : Nat) (q : Queue) : List Op → List Answer × Queue
  | [] => ([], q)
  | op :: ops =>
    let (answers, after) := run most (q.apply most op).2 ops
    ((q.apply most op).1 :: answers, after)

/-- No bytes are accepted any more. -/
def isShut (q : Queue) : Bool := q.closed || q.terminated

/-- What an operation adds to the waiting bytes. -/
def gain (q : Queue) : Op → List UInt8
  | .write data => if q.isShut then [] else data
  | _ => []

/-- **No operation loses a byte**: what it answers and what then waits is what waited before and what
it added. -/
theorem data_apply (most : Nat) (q : Queue) (op : Op) :
    (q.apply most op).1.data ++ (q.apply most op).2.bytes = q.bytes ++ q.gain op := by
  obtain ⟨bytes, closed, terminated, waiting⟩ := q
  cases op with
  | write data =>
    by_cases hdata : data = [] <;> cases terminated <;> cases closed <;>
      simp [apply, gain, isShut, Answer.data, hdata]
  | close => simp [apply, gain, Answer.data]
  | terminate => simp [apply, gain, Answer.data]
  | read limit mayWait =>
    have hnone : gain ⟨bytes, closed, terminated, waiting⟩ (.read limit mayWait) = [] := rfl
    rw [hnone, List.append_nil]
    simp only [apply]
    split
    · rfl
    · split
      · rfl
      · split
        · exact List.take_append_drop _ _
        · split <;> rfl

/-- Only a close and a terminate shut a queue, and nothing opens it again. -/
theorem isShut_apply (most : Nat) (q : Queue) (op : Op) :
    (q.apply most op).2.isShut = (q.isShut || (op == .close || op == .terminate)) := by
  obtain ⟨bytes, closed, terminated, waiting⟩ := q
  cases op with
  | write data =>
    by_cases hdata : data = [] <;> cases terminated <;> cases closed <;> simp [apply, isShut, hdata]
  | close => simp [apply, isShut]
  | terminate => simp [apply, isShut]
  | read limit mayWait =>
    have hkeep : (apply most ⟨bytes, closed, terminated, waiting⟩ (.read limit mayWait)).2.isShut =
        (closed || terminated) := by
      simp only [apply]
      split
      · rfl
      · split
        · rfl
        · split
          · rfl
          · split <;> rfl
    rw [hkeep]
    cases terminated <;> cases closed <;> rfl

/-- **What was read and what still waits are the bytes that were accepted**, in order. -/
theorem data_run (most : Nat) (ops : List Op) : ∀ q : Queue,
    (q.run most ops).1.flatMap Answer.data ++ (q.run most ops).2.bytes =
      q.bytes ++ if q.isShut then [] else accepted ops := by
  induction ops with
  | nil =>
    intro q
    simp [run, accepted]
  | cons op ops ih =>
    intro q
    have hgain : q.gain op ++ (if (q.apply most op).2.isShut then [] else accepted ops) =
        if q.isShut then [] else accepted (op :: ops) := by
      rw [isShut_apply]
      cases hshut : q.isShut <;> cases op <;> simp [gain, accepted, hshut]
    calc ((q.run most (op :: ops)).1.flatMap Answer.data ++ (q.run most (op :: ops)).2.bytes)
        = (q.apply most op).1.data ++ (((q.apply most op).2.run most ops).1.flatMap Answer.data ++
            ((q.apply most op).2.run most ops).2.bytes) := by
          simp only [run, List.flatMap_cons, List.append_assoc]
      _ = (q.apply most op).1.data ++ (q.apply most op).2.bytes ++
            (if (q.apply most op).2.isShut then [] else accepted ops) := by
          rw [ih, List.append_assoc]
      _ = q.bytes ++ if q.isShut then [] else accepted (op :: ops) := by
          rw [data_apply, List.append_assoc, hgain]

end Queue

/-! ## Refinement -/

/-- The queue that a channel stands for. What a terminated channel holds is not told. -/
structure RefinesQueue (c : Channel) (q : Queue) : Prop where
  wf : c.Wf
  closed : c.closed = q.closed
  terminated : c.terminated = q.terminated
  waiting : c.waiting = q.waiting
  bytes : c.terminated = false → c.toList = q.bytes

variable {c : Channel} {q : Queue}

theorem RefinesQueue.empty (capacity : Nat) : RefinesQueue (Channel.empty capacity) .empty where
  wf := Wf.empty capacity
  closed := rfl
  terminated := rfl
  waiting := rfl
  bytes := fun _ => rfl

theorem length_toList (c : Channel) : c.toList.length = c.pending := by
  rw [toList, List.length_append, Ring.length_toList, pending]

/-- The ring holds as much of the waiting bytes as fits. -/
theorem Wf.ring_toList (h : c.Wf) : c.ring.toList = c.toList.take c.capacity := by
  have hsize : c.ring.size ≤ c.capacity := h.ring.size_le
  rw [toList, List.take_append, Ring.length_toList, List.take_of_length_le (by simpa using hsize)]
  by_cases hover : c.overflow = []
  · simp [hover]
  · have hfull : c.ring.size = c.capacity := h.overflow hover
    simp [hfull]

theorem Wf.terminate (h : c.Wf) : c.terminate.Wf := ⟨h.ring, fun hne => absurd rfl hne, nofun⟩

@[simp] theorem accept_capacity (h : c.Wf) (data : List UInt8) :
    (c.accept data).capacity = c.capacity := by
  unfold accept
  split
  · exact (Ring.store_cursors h.ring data).1
  · rfl

theorem take_capacity (h : c.ring.Wf) (limit : Nat) : (c.take limit).capacity = c.capacity :=
  (Ring.store_cursors (h.drop limit) c.overflow).1

/-- What a read leaves of a channel: it takes no more than the ring holds. -/
theorem Wf.toList_take_size (h : c.Wf) (limit : Nat) :
    (c.take limit).toList = c.toList.drop (min limit c.ring.size) := by
  have hnone : min limit c.ring.size - c.ring.size = 0 := by omega
  rw [(take_spec h.ring limit).2, toList, List.drop_append, Ring.length_toList, hnone, List.drop_zero,
    ← Ring.length_toList, ← List.drop_eq_drop_min]

/-- The same by the capacity, which tells how much a ring holds that has more behind it. -/
theorem Wf.toList_take (h : c.Wf) (limit : Nat) :
    (c.take limit).toList = c.toList.drop (min limit c.capacity) := by
  rw [h.toList_take_size]
  by_cases hover : c.overflow = []
  · have hlength : c.toList.length = c.ring.size := by
      rw [length_toList, pending, hover, List.length_nil, Nat.add_zero]
    have hle : c.ring.size ≤ c.capacity := h.ring.size_le
    have hmin : min limit c.ring.size = min (min limit c.capacity) c.toList.length := by omega
    rw [hmin, ← List.drop_eq_drop_min]
  · have hfull : c.ring.size = c.capacity := h.overflow hover
    rw [hfull]

/-- A read of a channel that holds something takes what was asked for of what is in the ring. -/
theorem read_held (h : c.Wf) (hterminated : c.terminated = false) {limit : Nat} (hlimit : limit ≠ 0)
    (hheld : c.toList ≠ []) :
    c.read limit = .bytes (c.toList.take (min limit c.capacity)) (c.take limit) := by
  have hsize : c.ring.size ≠ 0 := by
    intro hzero
    have hring : c.ring.toList = [] := List.length_eq_zero_iff.mp (by simp [hzero])
    rw [h.ring_toList, List.take_eq_nil_iff] at hring
    have hpos : 0 < c.capacity := c.ring.positive
    exact hring.elim (by omega) hheld
  have hpeek : c.ring.peek limit = c.toList.take (min limit c.capacity) := by
    rw [Ring.peek_eq, h.ring_toList, List.take_take]
  simp only [read, hterminated, hlimit, hsize, hpeek, Bool.false_eq_true, if_false]

/-- A read of a channel that holds nothing finds the end or has to wait. -/
theorem read_unheld (hterminated : c.terminated = false) {limit : Nat} (hlimit : limit ≠ 0)
    (hheld : c.toList = []) : c.read limit = if c.closed then .bytes [] c else .blocked := by
  have hsize : c.ring.size = 0 := by
    rw [← Ring.length_toList, (List.append_eq_nil_iff.mp hheld).1, List.length_nil]
  simp [read, hterminated, hlimit, hsize]

theorem apply_write_refines (h : RefinesQueue c q) (data : List UInt8) :
    (c.apply (.write data)).1 = (q.apply c.capacity (.write data)).1 ∧
      RefinesQueue (c.apply (.write data)).2 (q.apply c.capacity (.write data)).2 ∧
      (c.apply (.write data)).2.capacity = c.capacity := by
  obtain ⟨bytes, closed, terminated, waiting⟩ := q
  obtain ⟨hwf, rfl, rfl, rfl, hbytes⟩ := h
  have hsame : RefinesQueue c ⟨bytes, c.closed, c.terminated, c.waiting⟩ :=
    ⟨hwf, rfl, rfl, rfl, hbytes⟩
  cases ht : c.terminated with
  | true => simpa [apply, Queue.apply, write, ht] using hsame
  | false =>
    cases hc : c.closed with
    | true => simpa [apply, Queue.apply, write, ht, hc] using hsame
    | false =>
      obtain ⟨hwf', hlist, hclosed, hterminated⟩ := accept_spec hwf data
      have hwaiting := accept_waiting c data
      rw [hbytes ht] at hlist
      simp only [apply, Queue.apply, write_open hc ht, Bool.false_eq_true, if_false]
      by_cases hdata : data = []
      · rw [if_pos hdata]
        refine ⟨rfl, ⟨hwf', hclosed.trans hc, hterminated.trans ht, ?_, fun _ => ?_⟩,
          accept_capacity hwf data⟩
        · rw [hwaiting, List.isEmpty_iff.mpr hdata, Bool.and_true]
        · rw [hlist, hdata, List.append_nil]
      · rw [if_neg hdata]
        refine ⟨rfl, ⟨hwf', hclosed.trans hc, hterminated.trans ht, ?_, fun _ => hlist⟩,
          accept_capacity hwf data⟩
        simp [hwaiting, hdata]

theorem apply_read_refines (h : RefinesQueue c q) (limit : Nat) (mayWait : Bool) :
    (c.apply (.read limit mayWait)).1 = (q.apply c.capacity (.read limit mayWait)).1 ∧
      RefinesQueue (c.apply (.read limit mayWait)).2 (q.apply c.capacity (.read limit mayWait)).2 ∧
      (c.apply (.read limit mayWait)).2.capacity = c.capacity := by
  obtain ⟨bytes, closed, terminated, waiting⟩ := q
  obtain ⟨hwf, rfl, rfl, rfl, hbytes⟩ := h
  have hsame : RefinesQueue c ⟨bytes, c.closed, c.terminated, c.waiting⟩ :=
    ⟨hwf, rfl, rfl, rfl, hbytes⟩
  cases ht : c.terminated with
  | true => simpa [apply, Queue.apply, read, ht] using hsame
  | false =>
    obtain rfl := hbytes ht
    by_cases hlimit : limit = 0
    · simpa [apply, Queue.apply, read, ht, hlimit] using hsame
    by_cases hheld : c.toList = []
    · rw [ht, hheld] at hsame
      cases hc : c.closed with
      | true =>
        simpa [apply, Queue.apply, read_unheld ht hlimit hheld, hlimit, hheld, hc] using hsame
      | false =>
        have hparked : RefinesQueue c.await ⟨[], false, false, true⟩ :=
          ⟨hwf.await ⟨hheld, hc, ht⟩, hc, ht, rfl, fun _ => hheld⟩
        rw [hc] at hsame
        cases mayWait <;>
          simp only [apply, Queue.apply, read_unheld ht hlimit hheld, hlimit, hheld, hc,
            Bool.false_eq_true, if_false, if_true, ne_eq, not_true_eq_false, Bool.or_false,
            Bool.or_true]
        · exact ⟨trivial, hsame, trivial⟩
        · exact ⟨trivial, hparked, rfl⟩
    · simp only [apply, Queue.apply, read_held hwf ht hlimit hheld, hlimit, if_pos hheld,
        Bool.false_eq_true, if_false]
      refine ⟨trivial, ⟨(take_spec hwf.ring limit).1, rfl, ht, ?_, fun _ => hwf.toList_take limit⟩,
        take_capacity hwf.ring limit⟩
      exact (hwf.not_waiting_of_held hheld).symm

/-- **An operation on a channel is the operation on the queue it stands for.** -/
theorem apply_refines (h : RefinesQueue c q) (op : Op) :
    (c.apply op).1 = (q.apply c.capacity op).1 ∧
      RefinesQueue (c.apply op).2 (q.apply c.capacity op).2 ∧
      (c.apply op).2.capacity = c.capacity := by
  cases op with
  | write data => exact apply_write_refines h data
  | close => exact ⟨rfl, ⟨h.wf.close, rfl, h.terminated, rfl, h.bytes⟩, rfl⟩
  | terminate => exact ⟨rfl, ⟨h.wf.terminate, h.closed, rfl, rfl, by rintro ⟨⟩⟩, rfl⟩
  | read limit mayWait => exact apply_read_refines h limit mayWait

/-- **Any number of operations on a channel are those on the queue it stands for.** -/
theorem run_refines (ops : List Op) : ∀ {c : Channel} {q : Queue}, RefinesQueue c q →
    (c.run ops).1 = (q.run c.capacity ops).1 ∧
      RefinesQueue (c.run ops).2 (q.run c.capacity ops).2 ∧
      (c.run ops).2.capacity = c.capacity := by
  induction ops with
  | nil => exact fun h => ⟨rfl, h, rfl⟩
  | cons op ops ih =>
    intro c q h
    obtain ⟨hanswer, hafter, hcap⟩ := apply_refines h op
    obtain ⟨hanswers, hend, hcap'⟩ := ih hafter
    rw [hcap] at hanswers hend
    refine ⟨?_, hend, hcap'.trans hcap⟩
    simp only [run, Queue.run, hanswer, hanswers]

/-- What wakes the reader and lets a read return that waits for bytes. -/
structure WakeSpec (c : Channel) (limit : Nat) : Prop where
  write : ∀ data, data ≠ [] → ∃ fed got after, c.write data = .ok fed ∧ fed.waiting = false ∧
    fed.read limit = .bytes got after ∧ got ≠ []
  close : c.close.waiting = false ∧ c.close.read limit = .bytes [] c.close
  terminate : c.terminate.waiting = false ∧ c.terminate.read limit = .refused .terminated

theorem Wf.wakeSpec (h : c.Wf) {limit : Nat} (hread : c.read limit = .blocked) :
    c.WakeSpec limit := by
  obtain ⟨hlimit, hheld, hclosed, hterminated⟩ := read_eq_blocked h hread
  constructor
  · intro data hdata
    obtain ⟨hwf, hlist, -, hterminated'⟩ := accept_spec h data
    rw [hheld, List.nil_append] at hlist
    have hbytes := read_held hwf (hterminated'.trans hterminated) hlimit (by rwa [hlist])
    refine ⟨c.accept data, _, _, write_open hclosed hterminated data,
      hwf.not_waiting_of_held (by rwa [hlist]), hbytes, ?_⟩
    have hpos : 0 < (c.accept data).capacity := (c.accept data).ring.positive
    rw [hlist, ne_eq, List.take_eq_nil_iff, not_or]
    exact ⟨by omega, hdata⟩
  · exact ⟨rfl, read_unheld (c := c.close) hterminated hlimit hheld⟩
  · exact ⟨rfl, by simp [read, Channel.terminate]⟩

/-- The answers of a channel and how it is left, against those of a queue, after some operations. -/
structure QueueSpec (ops : List Op) (c : List Answer × Channel) (q : List Answer × Queue) :
    Prop where
  answers : c.1 = q.1
  closed : c.2.closed = q.2.closed
  terminated : c.2.terminated = q.2.terminated
  pending : c.2.terminated = false → c.2.pending = q.2.bytes.length
  /-- What was read comes first in what was accepted. -/
  delivered : c.1.flatMap Answer.data <+: accepted ops
  /-- A read that waits can go on as soon as bytes, the end or the teardown have come. -/
  wakes : ∀ limit, c.2.read limit = .blocked → c.2.WakeSpec limit
  waiting : c.2.waiting = q.2.waiting
  /-- Whoever waits has nothing to read yet, so no wake-up was missed. -/
  rightly : c.2.waiting = true → ∀ limit, 0 < limit → c.2.read limit = .blocked

/-- **A channel answers like a queue without bounds, whatever is done to it and in whatever order.**
Its capacity, at least one, is only the most that a single read yields. -/
theorem queue_refined (capacity : Nat) (ops : List Op) :
    QueueSpec ops ((empty capacity).run ops) (Queue.empty.run (max capacity 1) ops) := by
  obtain ⟨hanswers, hend, -⟩ := run_refines ops (RefinesQueue.empty capacity)
  have hcap : (empty capacity).capacity = max capacity 1 := rfl
  rw [hcap] at hanswers hend
  constructor
  · exact hanswers
  · exact hend.closed
  · exact hend.terminated
  · intro hopen
    rw [← length_toList, hend.bytes hopen]
  · rw [hanswers]
    exact ⟨_, Queue.data_run (max capacity 1) ops .empty⟩
  · exact fun limit hread => hend.wf.wakeSpec hread
  · exact hend.waiting
  · exact fun hwaiting limit hlimit => hend.wf.read_of_waiting hwaiting hlimit

/-- A channel of two bytes gives three bytes back in two reads, then the end. -/
example : ((empty 2).run [.write [1, 2, 3], .read 8 true, .close, .read 8 true, .read 8 true]).1 =
    [.done, .bytes [1, 2], .done, .bytes [3], .bytes []] := by decide

/-- A reader that waits is woken by bytes, and not by none. -/
example : ((empty 2).run [.read 8 true, .write []]).2.waiting = true ∧
    ((empty 2).run [.read 8 true, .write [1]]).2.waiting = false := by decide

end Channel

end Pipework
